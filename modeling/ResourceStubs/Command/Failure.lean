import ResourceStubs.Error
import ResourceStubs.Files.Basic

/-! Why a run ends early, and how that is told: the failure first, and below it its causes. A run
that dies tells nothing. -/

namespace ResourceStubs

/-- What is told of an error: its text, and below it that of the other party whose refusal it passes
on. -/
def Error.chain (e : Error) : List String :=
  match e with
  | .io detail | .yaml detail => [e.message, detail]
  | _ => [e.message]

namespace Command

/-- Why a run ends early. -/
inductive Failure where
  /-- The configuration cannot be loaded. -/
  | config (e : Error)
  /-- The services of the data directory cannot be listed. -/
  | listing (path : String) (e : Error)
  /-- The model of a service that nothing else names cannot be loaded. -/
  | model (service : String) (e : Error)
  /-- There is no service to handle. -/
  | nothingSelected
  /-- A service is asked for that is not in the catalog. -/
  | unknown (e : Error)
  /-- A service gives an error that skipping it does not mend. -/
  | aborted (service : String) (e : Error)
  /-- The directory of the output cannot be made. -/
  | directory (path : String) (e : FileError)
  /-- The output cannot be written. -/
  | output (path : String) (e : FileError)
  deriving DecidableEq, Repr

namespace Failure

/-- The failure itself. -/
def headline : Failure → String
  | config _ => "Failed to load config"
  | listing path _ => s!"Failed to list services in {path}"
  | model service _ => s!"Failed to load service model for {service}"
  | nothingSelected => "No services to parse"
  | unknown e => e.message
  | aborted service _ => s!"Aborting at {service}"
  | directory path _ => s!"Failed to create {path}"
  | output path _ => s!"Failed to write {path}"

/-- The causes of the failure, nearest first. -/
def causes : Failure → List String
  | config e | listing _ e | model _ e | aborted _ e => e.chain
  | nothingSelected => []
  | unknown e => e.chain.tail
  | directory _ e | output _ e => [e.text]

/-- A text whose lines are set in, the first behind a mark and the others as far as the mark
goes. -/
def setIn (mark text : String) : String :=
  let margin := String.ofList (List.replicate mark.length ' ')
  mark ++ ("\n" ++ margin).intercalate ((text.toList.splitOn '\n').map String.ofList)

/-- Causes on lines of their own. They are numbered if there are several. -/
def causeLines : List String → List String
  | [cause] => [setIn "    " cause]
  | causes => causes.zipIdx.map fun (cause, i) =>
      let digits := toString i
      setIn (String.ofList (List.replicate (5 - digits.length) ' ') ++ digits ++ ": ") cause

/-- The whole text of the failure. -/
def text (failure : Failure) : String :=
  let told := s!"Error: {failure.headline}"
  match failure.causes with
  | [] => told
  | causes => "\n".intercalate (told :: "" :: "Caused by:" :: causeLines causes)

end Failure

/-- Why a run stops among its services. -/
inductive Stop where
  | failed (failure : Failure)
  /-- The stack overflows at a shape of the service, and the run dies. -/
  | died (service : String)
  deriving DecidableEq, Repr

/-- What an error that skipping the service does not mend does to a run. -/
def Stop.ofError (service : String) : Error → Stop
  | .introspection (.endless _) => .died service
  | e => .failed (.aborted service e)

theorem Stop.ofError_of_isFatal {e : Error} (h : e.isFatal = true) (service : String) :
    ofError service e = .failed (.aborted service e) := by
  cases e <;> simp_all [ofError, Error.isFatal]

end Command

end ResourceStubs
