/-! A file system as a value: directories with named entries and files with text. -/

namespace ResourceStubs

/-- A file or a directory. -/
inductive FileNode where
  | file (text : String)
  | directory (entries : List (String × FileNode))
  deriving Inhabited

/-- Why a file operation is refused. -/
inductive FileError where
  | notFound
  | alreadyExists
  | notDirectory
  | isDirectory
  deriving DecidableEq, Repr

/-- The text of the refusal, with its number. -/
def FileError.text : FileError → String
  | .notFound => "No such file or directory (os error 2)"
  | .alreadyExists => "File exists (os error 17)"
  | .notDirectory => "Not a directory (os error 20)"
  | .isDirectory => "Is a directory (os error 21)"

/-- The names that lead from the top to a place; a full stop stays where it is and two go back. -/
abbrev Location := List String

/-- A file system, and the place that relative paths start from. -/
structure FileSystem where
  top : FileNode
  workingDirectory : Location
  deriving Inhabited

namespace FileNode

/-- An empty directory. -/
def emptyDirectory : FileNode := .directory []

/-- The entry of a name in a directory. -/
def child? (name : String) : FileNode → Option FileNode
  | file _ => none
  | directory entries => entries.lookup name

/-- The text of a file. -/
def text? : FileNode → Option String
  | file text => some text
  | directory _ => none

/-- The node is a directory. -/
def isDirectory : FileNode → Bool
  | file _ => false
  | directory _ => true

/-- The node that names lead to, from one below the nodes `above`, nearest first. -/
def descend (above : List FileNode) (node : FileNode) : Location → Except FileError FileNode
  | [] => .ok node
  | name :: rest =>
    match node with
    | file _ => .error .notDirectory
    | directory entries =>
      if name = "." then descend above node rest
      else if name = ".." then
        match above with
        | parent :: further => descend further parent rest
        | [] => descend [] node rest
      else
        match entries.lookup name with
        | some child => descend (node :: above) child rest
        | none => .error .notFound

end FileNode

namespace Location

/-- The names of a path. A slash at its end asks for a directory, as a full stop behind it does. -/
def ofPath (path : String) : Location :=
  let parts := (path.toList.splitOn '/').map String.ofList
  parts.filter (· ≠ "") ++ if path.toList.getLast? = some '/' then ["."] else []

/-- The path starts from the top. -/
def isAbsolute (path : String) : Bool := path.toList.head? == some '/'

/-- The place of a path that starts from a place unless it starts from the top. -/
def join (location : Location) (path : String) : Location :=
  if isAbsolute path then ofPath path else location ++ ofPath path

end Location

namespace FileSystem

/-- The place of a path. -/
def locate (files : FileSystem) (path : String) : Location := files.workingDirectory.join path

/-- The node at a place. -/
def nodeAt (files : FileSystem) (location : Location) : Except FileError FileNode :=
  files.top.descend [] location

/-- The node at a path, which is not empty. -/
def node (files : FileSystem) (path : String) : Except FileError FileNode :=
  if path.isEmpty then .error .notFound else files.nodeAt (files.locate path)

/-- There is a node at the path. -/
def pathExists (files : FileSystem) (path : String) : Bool := (files.node path).isOk

/-- The text of the file at a path. -/
def read (files : FileSystem) (path : String) : Except FileError String := do
  match ← files.node path with
  | .file text => .ok text
  | .directory _ => .error .isDirectory

/-- The entries of the directory at a path. -/
def list (files : FileSystem) (path : String) : Except FileError (List (String × FileNode)) := do
  match ← files.node path with
  | .directory entries => .ok entries
  | .file _ => .error .notDirectory

end FileSystem

end ResourceStubs
