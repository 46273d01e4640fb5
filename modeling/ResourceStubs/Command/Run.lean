import ResourceStubs.Command.Arguments
import ResourceStubs.Command.Report
import ResourceStubs.Command.Survey
import ResourceStubs.Command.Usage
import ResourceStubs.Files.Around
import ResourceStubs.Files.Update
import ResourceStubs.Json.Printer
import ResourceStubs.Stub.Encode

/-! Runs of the commands. A run starts from a file system and comes to an exit code, the lines that
are printed, and the file system afterwards. -/

namespace ResourceStubs.Command

/-- What a run comes to. -/
structure Run where
  code : Nat
  lines : List Line
  files : FileSystem

namespace Run

/-- The run that ended well. -/
def success (lines : List Line) (files : FileSystem) : Run := ⟨0, lines, files⟩

/-- The run that ended early. -/
def failure (lines : List Line) (files : FileSystem) : Run := ⟨1, lines, files⟩

/-- The run whose stack overflowed. The system ends it with a signal, and its exit code is the one
that stands for the signal. What the system itself remarks on it is left out. -/
def death (lines : List Line) (files : FileSystem) : Run := ⟨134, lines, files⟩

end Run

/-! ### Building stubs -/

/-- The text of the output: the stub classes of each service. -/
def outputText (roots : List ServiceResource) : String :=
  (Json.array (roots.map ServiceResource.toJson)).pretty

/-- The file system with the directory around the output in it, as far as it can be made, and why it
cannot be made. -/
def makeRoom (files : FileSystem) (path : String) : FileSystem × Option Failure :=
  let around := Path.around path
  if around.isEmpty then (files, none)
  else
    let (made, refusal) := files.tryDirectories around
    (made, refusal.map (.directory around))

/-- The end of a run that handled all its services and has told `lines`: the output is written, if
one is named. -/
def deliver (files : FileSystem) (lines : List Line) (roots : List ServiceResource) :
    Option String → Run
  | none => .success lines files
  | some path =>
    match makeRoom files path with
    | (made, some failure) => .failure (lines ++ [.err failure.text]) made
    | (made, none) =>
      match made.write path (outputText roots) with
      | .error e => .failure (lines ++ [.err (Failure.output path e).text]) made
      | .ok written => .success (lines ++ [.out s!"  📄 {path}"]) written

/-- The services that a run handles: those it is asked for, or all that are there and are not ruled
out by the configuration. -/
def selection (survey : Survey) (asked : Option (List String)) : Except Failure (List String) :=
  match asked.getD (survey.discovered.filter survey.config.selects) with
  | [] => .error .nothingSelected
  | names => .ok names

/-- What a run is to do: how it handles a service, and which services. -/
def plan (files : FileSystem) (request : ParseRequest) :
    Except Failure (Workshop × List String) := do
  let survey ← Survey.take files request.dataDirectory request.config
  let names ← selection survey request.services
  return (⟨survey.session, survey.catalog, survey.config.summaryLimit⟩, names)

/-- The run that builds stubs. -/
def parseRun (files : FileSystem) (request : ParseRequest) : Run :=
  let opening := Line.out s!"→ Reading SDK data from: {request.dataDirectory}"
  match plan files request with
  | .error failure => .failure [opening, .err failure.text] files
  | .ok (workshop, names) =>
    let (handled, stop) := workshop.handleAll names
    let told := opening :: handledLines request.verbose names.length handled
    match stop with
    | some (.failed failure) =>
      .failure (told ++ failureLines names.length handled.length failure) files
    | some (.died service) => .death (told ++ deathLines names.length handled.length service) files
    | none => deliver files (told ++ summaryLines handled) (roots handled) request.output

/-! ### Listing services -/

/-- The line of a service in the list. -/
def serviceLine (service : ServiceName) : Line :=
  .out s!"  • {service.name} ({service.className}) {service.moduleName} {service.packageName}"

/-- The lines of services up to the first that is not in the catalog, and what is told of that
one. -/
def serviceLines (catalog : Catalog) : List String → List Line × Option Failure
  | [] => ([], none)
  | name :: names =>
    match catalog.find name with
    | .error e => ([], some (.unknown e))
    | .ok service =>
      let (others, failure) := serviceLines catalog names
      (serviceLine service :: others, failure)

/-- The run that lists services. -/
def servicesRun (files : FileSystem) (directory : String) (config : Option String) : Run :=
  match Survey.take files directory config with
  | .error failure => .failure [.err failure.text] files
  | .ok survey =>
    let (lines, stop) := serviceLines survey.catalog survey.discovered
    let told := .out "Services:" :: lines
    match stop with
    | some failure => .failure (told ++ [.err failure.text]) files
    | none =>
      .success (told ++ [.out "", .out s!"✓ {survey.discovered.length} services"]) files

/-! ### Calls -/

/-- The run of a command. -/
def run (files : FileSystem) : Command → Run
  | .parse request => parseRun files request
  | .services directory config => servicesRun files directory config

/-- What a call comes to that runs no command. -/
def interrupted (files : FileSystem) : Interruption → Run
  | .misuse => ⟨2, [.err (Level.usage .top)], files⟩
  | .help level => .success [.out level.usage] files
  | .version => .success [.out s!"{programName} {programVersion}"] files

/-- What a call with arguments comes to. -/
def call (files : FileSystem) (arguments : List String) : Run :=
  match read arguments with
  | .ok command => run files command
  | .error interruption => interrupted files interruption

end ResourceStubs.Command
