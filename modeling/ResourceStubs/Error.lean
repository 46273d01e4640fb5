/-! What can go wrong, and how it is told. -/

namespace ResourceStubs

/-- What is wrong with the documents of a service. -/
inductive Fault where
  /-- A fault that is found, and told. -/
  | told (text : String)
  /-- A list or map shape that contains itself. This fault is not found: the shape is followed
  without end, until the stack overflows and the run dies. -/
  | endless (shape : String)
  deriving DecidableEq, Repr

instance : Coe String Fault := ⟨.told⟩

/-- The text of the fault. -/
def Fault.text : Fault → String
  | .told text => text
  | .endless shape => s!"Shape {shape} has no end"

/-- A cause of failure. -/
inductive Error where
  /-- No service of this name is known. -/
  | serviceNotFound (name : String)
  /-- A document cannot be read as what it should be. -/
  | parse (detail : String)
  /-- The documents of a service do not fit together. -/
  | introspection (fault : Fault)
  /-- The service has no document of the kind asked for. -/
  | unknownService (name : String)
  /-- A model that belongs to one service was found where another was expected. -/
  | modelMismatch (expected actual : String)
  /-- The file system refused. -/
  | io (detail : String)
  /-- A text is not the configuration it should be. -/
  | yaml (detail : String)
  deriving DecidableEq, Repr

namespace Error

/-- The text of the error. -/
def message : Error → String
  | .serviceNotFound name => s!"Unknown service {name}"
  | .parse detail => s!"Parse error: {detail}"
  | .introspection fault => s!"Introspection error: {fault.text}"
  | .unknownService name => s!"Unknown service: {name}"
  | .modelMismatch expected actual =>
    s!"Service model mismatch: expected {expected}, got {actual}"
  | .io detail => s!"IO error: {detail}"
  | .yaml detail => s!"YAML error: {detail}"

/-- The error stops a run over several services instead of skipping one of them. -/
def isFatal : Error → Bool
  | .modelMismatch _ _ => true
  | _ => false

theorem isFatal_iff {e : Error} :
    e.isFatal = true ↔ ∃ expected actual, e = .modelMismatch expected actual := by
  cases e <;> simp [isFatal]

/-- A run over several services goes on with the next one. -/
def isMild : Error → Bool
  | .modelMismatch _ _ | .introspection (.endless _) => false
  | _ => true

theorem isFatal_of_isMild {e : Error} (h : e.isMild = true) : e.isFatal = false := by
  rcases e with _ | _ | (_ | _) | _ | _ | _ | _ <;> simp_all [isMild, isFatal]

/-- A run does not go on where the error is fatal, or where the run has died. -/
theorem isMild_eq_false_iff {e : Error} :
    e.isMild = false ↔ e.isFatal = true ∨ ∃ shape, e = .introspection (.endless shape) := by
  rcases e with _ | _ | (_ | _) | _ | _ | _ | _ <;> simp [isMild, isFatal]

end Error

end ResourceStubs
