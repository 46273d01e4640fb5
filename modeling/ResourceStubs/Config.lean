import ResourceStubs.Doc.Summary
import ResourceStubs.Service.Catalog
import ResourceStubs.Yaml.Node

/-! The configuration of a run: how long summaries may be, services to add to the catalog, and the
services to restrict the run to. -/

namespace ResourceStubs

/-- A service to add to the catalog. -/
structure ServiceEntry where
  name : String
  className : String
  deriving DecidableEq, Repr, Inhabited

/-- The configuration of a run. -/
structure Config where
  summaryLimit : Nat
  services : List ServiceEntry
  only : List String
  deriving DecidableEq, Repr, Inhabited

namespace Config

/-- What holds where nothing is configured. -/
def default : Config := ⟨Doc.defaultLimit, [], []⟩

/-- A service to add, which has both names. -/
def entryOfNode? (node : Yaml.Node) : Option ServiceEntry := do
  let fields ← node.fields? ["name", "class_name"]
  some ⟨← (fields.lookup "name").bind (·.text?), ← (fields.lookup "class_name").bind (·.text?)⟩

/-- A list of things read one by one, none if it is missing. -/
def listOf {α : Type} (read : Yaml.Node → Option α) (field : Option Yaml.Node) : Option (List α) :=
  match field with
  | none => some []
  | some node => node.items?.bind (·.mapM read)

/-- The configuration that a node is; fields that are missing have their default. -/
def ofNode? (node : Yaml.Node) : Option Config := do
  let fields ← node.fields? ["max_docstring_length", "services", "only"]
  some {
    summaryLimit := ← match fields.lookup "max_docstring_length" with
      | none => some Doc.defaultLimit
      | some node => node.word?
    services := ← listOf entryOfNode? (fields.lookup "services")
    only := ← listOf Yaml.Node.text? (fields.lookup "only") }

/-- The configuration in a text. -/
def read (text : String) : Except Error Config :=
  match Yaml.Node.read? text with
  | none => .error (.yaml "the text is not one YAML document")
  | some node =>
    match ofNode? node with
    | none => .error (.yaml "the fields are not those of a configuration")
    | some config => .ok config

/-- The catalog with the configured services added. -/
def applyTo (config : Config) (catalog : Catalog) : Catalog :=
  catalog.addAll (config.services.map fun entry => (entry.name, entry.className))

/-- The run includes the service: it is one of those it is restricted to, if it is restricted. -/
def selects (config : Config) (service : String) : Bool :=
  config.only.isEmpty || config.only.contains service

end Config

end ResourceStubs
