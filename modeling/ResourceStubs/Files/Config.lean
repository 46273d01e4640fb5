import ResourceStubs.Config
import ResourceStubs.Files.Basic
import ResourceStubs.Text.Quoted

/-! Configurations in files. -/

namespace ResourceStubs.Config

/-- The configuration in a file. -/
def load (files : FileSystem) (path : String) : Except Error Config :=
  match files.read path with
  | .error e =>
    .error (.parse s!"Failed to read config file {Text.quoted path}: {e.text}")
  | .ok text =>
    match read text with
    | .error e =>
      .error (.parse s!"Failed to parse config YAML from {Text.quoted path}: {e.message}")
    | .ok config => .ok config

/-- The configuration in a file, or the default where no file is named or none is there. -/
def loadOrDefault (files : FileSystem) : Option String → Except Error Config
  | none => .ok default
  | some path => if files.pathExists path then load files path else .ok default

end ResourceStubs.Config
