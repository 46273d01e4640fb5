import ResourceStubs.Dict
import ResourceStubs.Files.Basic

/-! Changes of a file system. Each gives the changed file system, or the reason of a refusal. Making
directories may be refused after it has made some, and gives both. -/

namespace ResourceStubs

namespace FileNode

/-- The directory with an entry put in; a file stays as it is. -/
def putChild (around : FileNode) (name : String) (node : FileNode) : FileNode :=
  match around with
  | file text => .file text
  | directory entries => .directory (Dict.put name node entries)

/-- The directory without an entry; a file stays as it is. -/
def eraseChild (around : FileNode) (name : String) : FileNode :=
  match around with
  | file text => .file text
  | directory entries => .directory (entries.filter (·.1 ≠ name))

/-- The node with the one that plain names lead to changed. -/
def update (change : FileNode → FileNode) : Location → FileNode → FileNode
  | [], node => change node
  | name :: rest, node =>
    match node.child? name with
    | some child => node.putChild name (update change rest child)
    | none => node

end FileNode

namespace Location

/-- The plain names that lead to the same place, in a file system where every step of the way is a
directory. -/
def plain (location : Location) : Location :=
  location.foldl (fun names name =>
    if name = "." then names else if name = ".." then names.dropLast else names ++ [name]) []

end Location

namespace FileSystem

/-- The file system with the node at a place changed. -/
def updateAt (files : FileSystem) (location : Location) (change : FileNode → FileNode) :
    FileSystem :=
  { files with top := files.top.update change location.plain }

/-- The entries of the directory at a place. -/
def entriesAt (files : FileSystem) (location : Location) :
    Except FileError (List (String × FileNode)) := do
  match ← files.nodeAt location with
  | .directory entries => .ok entries
  | .file _ => .error .notDirectory

/-- The last name of a place that is not a step, and the place around it. -/
def lastName? (location : Location) : Option (Location × String) :=
  match location.getLast? with
  | some name => if name = "." ∨ name = ".." then none else some (location.dropLast, name)
  | none => none

/-- The file at a path has the text afterwards. The directory around it has to be there. -/
def write (files : FileSystem) (path text : String) : Except FileError FileSystem :=
  if path.isEmpty then .error .notFound
  else
    match lastName? (files.locate path) with
    | none => .error .isDirectory
    | some (around, name) => do
      match (← files.entriesAt around).lookup name with
      | some (.directory _) => .error .isDirectory
      | _ => .ok (files.updateAt around (·.putChild name (.file text)))

/-- Makes the directories that are missing on a way from `around`, one after the other: the file
system with those that were made, and why there are not all of them. Before any is made, a file on
the way is met as what the rest of the way should lead through; afterwards, as what should be made
itself. -/
def makeDirectoriesFrom (around : Location) (madeAny : Bool) :
    Location → FileSystem → FileSystem × Option FileError
  | [], files => (files, none)
  | name :: rest, files =>
    match files.nodeAt (around ++ [name]) with
    | .ok (.directory _) => makeDirectoriesFrom (around ++ [name]) madeAny rest files
    | .ok (.file _) =>
      (files, some (if madeAny || rest.isEmpty then .alreadyExists else .notDirectory))
    | .error .notFound =>
      makeDirectoriesFrom (around ++ [name]) true rest
        (files.updateAt around (·.putChild name .emptyDirectory))
    | .error e => (files, some e)

/-- Makes a directory at the path and at every step to it. Where that is refused part way, the
directories that were made stay. -/
def tryDirectories (files : FileSystem) (path : String) : FileSystem × Option FileError :=
  makeDirectoriesFrom [] false (files.locate path) files

/-- There is a directory at the path afterwards, and at every step to it. -/
def makeDirectories (files : FileSystem) (path : String) : Except FileError FileSystem :=
  match files.tryDirectories path with
  | (made, none) => .ok made
  | (_, some e) => .error e

/-- There is nothing at the path afterwards; there has to be something before. -/
def remove (files : FileSystem) (path : String) : Except FileError FileSystem := do
  let _ ← files.node path
  match lastName? (files.locate path) with
  | some (around, name) => .ok (files.updateAt around (·.eraseChild name))
  | none => .error .isDirectory

end FileSystem

end ResourceStubs
