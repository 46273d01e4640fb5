import ResourceStubs.Command.Outcome

/-! What a run tells about the services it handles. -/

namespace ResourceStubs.Command

/-- A line that is printed, as output or as a remark beside it. -/
inductive Line where
  | out (text : String)
  | err (text : String)
  deriving DecidableEq, Repr

namespace Line

/-- The text of a line of output. -/
def out? : Line → Option String
  | out text => some text
  | err _ => none

/-- The text of a remark. -/
def err? : Line → Option String
  | out _ => none
  | err text => some text

end Line

/-- What is told when a service is begun, by its place among all of them. -/
def beginning (place total : Nat) (name : String) : Line :=
  .out s!"→ Parsing service {place}/{total}: {name}"

/-- What is told of the stub classes of a service. -/
def rootLines (verbose : Bool) (root : ServiceResource) : List Line :=
  .out s!"✓ Parsed {root.name} with {root.subResources.length} sub-resources" ::
    if verbose then [
      .out s!"    Methods: {root.methods.length}",
      .out s!"    Attributes: {root.attributes.length}",
      .out s!"    Collections: {root.allCollections.length}"]
    else []

/-- What is told of a service that was handled. -/
def Handled.lines (handled : Handled) (verbose : Bool) : List Line :=
  match handled.outcome with
  | .parsed root => rootLines verbose root
  | .withoutResources => [.out s!"  {handled.service.name} has no service resource"]
  | .skipped e => [.err s!"⚠ Skipping {handled.service.name}: {e.message}"]

/-- What is told of the services that were handled, which are the first of `total`. -/
def handledLines (verbose : Bool) (total : Nat) (handled : List Handled) : List Line :=
  handled.zipIdx.flatMap fun (h, i) => beginning (i + 1) total h.service.name :: h.lines verbose

/-- What is told of the failure that stops a run after so many services. A service that stops the
run itself was begun. -/
def failureLines (total done : Nat) (failure : Failure) : List Line :=
  match failure with
  | .aborted service _ => [beginning (done + 1) total service, .err failure.text]
  | _ => [.err failure.text]

/-- What is told of the service that a run dies at, after so many others: it was begun. -/
def deathLines (total done : Nat) (service : String) : List Line :=
  [beginning (done + 1) total service]

/-- The stub classes that were built, in order. -/
def roots (handled : List Handled) : List ServiceResource := handled.filterMap (·.outcome.root?)

/-- The number of services that were skipped. -/
def skippedCount (handled : List Handled) : Nat := handled.countP (·.outcome.isSkipped)

/-- The number of services without resources. -/
def withoutResourcesCount (handled : List Handled) : Nat :=
  handled.countP (·.outcome.isWithoutResources)

/-- The number of resource classes below the service resources. -/
def subResourceCount (handled : List Handled) : Nat :=
  (roots handled).foldl (fun n root => n + root.subResources.length) 0

/-- The counts that are told at the end of a run. -/
def summaryLines (handled : List Handled) : List Line :=
  let skipped := skippedCount handled
  let remark := if skipped = 0 then [] else
    [.out "", .out s!"⚠ Skipped {skipped} service(s) due to parse errors"]
  let built := (roots handled).length
  let below := subResourceCount handled
  let without := withoutResourcesCount handled
  let total := s!"✓ Total: {built} service resources, {below} sub-resources, " ++
    s!"{without} services without resources"
  remark ++ [.out "", .out total]

theorem handled_counts (handled : List Handled) :
    (roots handled).length + withoutResourcesCount handled + skippedCount handled =
      handled.length := by
  induction handled with
  | nil => rfl
  | cons h rest ih =>
    simp only [roots, withoutResourcesCount, skippedCount, List.length_filterMap_eq_countP,
      List.countP_cons, List.length_cons] at ih ⊢
    have := h.outcome.tally
    omega

end ResourceStubs.Command
