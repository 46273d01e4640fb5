import ResourceStubs.Command.Run

/-! The program. It takes what a command needs from the disk, runs the command, brings the output to
the disk, and prints the lines of the run. -/

namespace ResourceStubs.Disk

/-- The names in the directory at a path, if there is one. -/
def names? (path : String) : IO (Option (List String)) := do
  try
    let entries ← ((← IO.currentDir) / path).readDir
    return some (entries.toList.map (·.fileName))
  catch _ => return none

/-- The text of the file at a path, if there is one. -/
def text? (path : String) : IO (Option String) := do
  try return some (← IO.FS.readFile path)
  catch _ => return none

/-- What is at a path, with everything below it. -/
partial def tree? (path : String) : IO (Option FileNode) := do
  match ← names? path with
  | some names =>
    let entries ← names.filterMapM fun name => do
      return (← tree? s!"{path}/{name}").map fun node => (name, node)
    return some (.directory entries)
  | none => return (← text? path).map .file

/-- What is at a path, with nothing below it. -/
def node? (path : String) : IO (Option FileNode) := do
  match ← names? path with
  | some _ => return some .emptyDirectory
  | none => return (← text? path).map .file

/-- The path of a place. -/
def pathOf (place : Location) : String := "/" ++ "/".intercalate place

/-- The file system with what is on the way to a path. -/
def lookAt (files : FileSystem) (path : String) : IO FileSystem := do
  let location := files.locate path
  let mut seen := files
  for i in List.range location.length do
    let place := location.take (i + 1)
    if !(seen.nodeAt place).isOk then
      match location[i]?, ← node? (pathOf place) with
      | some name, some node => seen := seen.updateAt (location.take i) (·.putChild name node)
      | _, _ => return seen
  return seen

/-- The file system with everything below a path. -/
def lookBelow (files : FileSystem) (path : String) : IO FileSystem := do
  let seen ← lookAt files path
  match ← tree? path with
  | some tree => return seen.updateAt (seen.locate path) fun _ => tree
  | none => return seen

/-- A file system of nothing but the way to the working directory. -/
def workingDirectory : IO FileSystem := do
  let path := (← IO.currentDir).toString
  lookAt ⟨.emptyDirectory, Location.ofPath path⟩ "."

/-- The file system with all that a command looks at. -/
def lookFor (command : Command) : IO FileSystem := do
  let start ← workingDirectory
  match command with
  | .parse request => do
    let files ← lookBelow start request.dataDirectory
    (request.config.toList ++ request.output.toList).foldlM lookAt files
  | .services dataDirectory config => do
    config.toList.foldlM lookAt (← lookBelow start dataDirectory)

/-- Brings the file at a path to the disk, with the directories around it. -/
def store (files : FileSystem) (path : String) : IO Unit := do
  let around := Path.around path
  if !around.isEmpty && files.pathExists around then IO.FS.createDirAll around
  match files.read path with
  | .ok text => IO.FS.writeFile path text
  | .error _ => return

/-- Brings the output of a run to the disk. -/
def storeOutput (command : Command) (run : Command.Run) : IO Unit := do
  match command with
  | .parse { output := some path, .. } => if run.code = 0 then store run.files path
  | _ => return

/-- Prints a line. -/
def print : Command.Line → IO Unit
  | .out text => IO.println text
  | .err text => IO.eprintln text

/-- Prints the lines of a run and gives its exit code. -/
def finish (run : Command.Run) : IO UInt32 := do
  run.lines.forM print
  return run.code.toUInt32

end ResourceStubs.Disk

open ResourceStubs in
/-- Runs the command that the arguments ask for. -/
def main (arguments : List String) : IO UInt32 := do
  match Command.read arguments with
  | .error interruption =>
    Disk.finish (Command.interrupted (← Disk.workingDirectory) interruption)
  | .ok command =>
    let run := Command.run (← Disk.lookFor command) command
    Disk.storeOutput command run
    Disk.finish run
