import ResourceStubs.Dict
import ResourceStubs.Error
import ResourceStubs.Stub.Method

/-! An oracle knows signatures of methods. Where it has one for a method, that one is used. -/

namespace ResourceStubs

/-- Methods by name for each class name and for the service resource. -/
structure Oracle where
  methodsOf : String → Except Error (Dict Method)
  rootMethods : Except Error (Dict Method)

namespace Oracle

/-- The methods of a class, or of the service resource if no class is named. -/
def ask (oracle : Oracle) : Option String → Except Error (Dict Method)
  | some name => oracle.methodsOf name
  | none => oracle.rootMethods

/-- The oracle that knows nothing. -/
def silent : Oracle := ⟨fun _ => .ok Dict.empty, .ok Dict.empty⟩

end Oracle

/-- Signatures that are written down beforehand. -/
structure SignatureTable where
  resources : Dict (Dict Method)
  root : Dict Method
  deriving Inhabited

namespace SignatureTable

/-- No signatures. -/
def empty : SignatureTable := ⟨Dict.empty, Dict.empty⟩

/-- The table with a method of a class, under its name. -/
def addMethod (table : SignatureTable) (className : String) (method : Method) : SignatureTable :=
  let methods := (table.resources.get? className).getD Dict.empty
  { table with resources := table.resources.insert className (methods.insert method.name method) }

/-- The table with a method of the service resource, under its name. -/
def addRootMethod (table : SignatureTable) (method : Method) : SignatureTable :=
  { table with root := table.root.insert method.name method }

/-- The oracle that answers from the table and never fails. -/
def oracle (table : SignatureTable) : Oracle where
  methodsOf name := .ok ((table.resources.get? name).getD Dict.empty)
  rootMethods := .ok table.root

end SignatureTable

end ResourceStubs
