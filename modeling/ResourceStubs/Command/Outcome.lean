import ResourceStubs.Assembly.Service
import ResourceStubs.Command.Failure
import ResourceStubs.Oracle.Shapes
import ResourceStubs.Service.Catalog

/-! What comes of the services of a run. One that cannot be built is skipped, unless its error is
one that stops the run. A run also stops where it follows a shape that has no end. -/

namespace ResourceStubs

/-- The stub classes of a service, with signatures from its own shapes. -/
def Session.stubsFromShapes (session : Session) (service : ServiceName) (limit : Nat) :
    Except Error (Option ServiceResource) := do
  let source ← ShapeSource.ofSession session service
  session.stubs source.oracle service limit

namespace Command

/-- What comes of a service. -/
inductive Outcome where
  | parsed (root : ServiceResource)
  | withoutResources
  | skipped (e : Error)
  deriving DecidableEq, Repr

namespace Outcome

/-- The stub classes, if there are any. -/
def root? : Outcome → Option ServiceResource
  | parsed root => some root
  | _ => none

/-- The service has no resources. -/
def isWithoutResources : Outcome → Bool
  | withoutResources => true
  | _ => false

/-- The service was skipped. -/
def isSkipped : Outcome → Bool
  | skipped _ => true
  | _ => false

theorem tally (outcome : Outcome) :
    (if outcome.root?.isSome = true then 1 else 0) +
      (if outcome.isWithoutResources = true then 1 else 0) +
      (if outcome.isSkipped = true then 1 else 0) = 1 := by
  cases outcome <;> rfl

/-- What comes of a service whose stub classes were built or not. -/
def ofResult : Except Error (Option ServiceResource) → Except Error Outcome
  | .ok (some root) => .ok (parsed root)
  | .ok none => .ok withoutResources
  | .error e => if e.isMild then .ok (skipped e) else .error e

end Outcome

/-- A service that was handled, with what came of it. -/
structure Handled where
  service : ServiceName
  outcome : Outcome
  deriving DecidableEq, Repr

/-- What a run needs to handle a service by its name. -/
structure Workshop where
  session : Session
  catalog : Catalog
  limit : Nat

namespace Workshop

/-- Handles the service of a name. -/
def handle (workshop : Workshop) (name : String) : Except Stop Handled :=
  match workshop.catalog.find name with
  | .error e => .error (.failed (.unknown e))
  | .ok service =>
    match Outcome.ofResult (workshop.session.stubsFromShapes service workshop.limit) with
    | .ok outcome => .ok ⟨service, outcome⟩
    | .error e => .error (.ofError service.name e)

/-- Handles services one after the other up to the first that stops the run: those that were
handled, and why the run stopped. -/
def handleAll (workshop : Workshop) : List String → List Handled × Option Stop
  | [] => ([], none)
  | name :: names =>
    match workshop.handle name with
    | .error stop => ([], some stop)
    | .ok handled =>
      let (others, stop) := workshop.handleAll names
      (handled :: others, stop)

end Workshop

end Command

end ResourceStubs
