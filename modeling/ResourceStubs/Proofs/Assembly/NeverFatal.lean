import ResourceStubs.Command.Outcome
import ResourceStubs.Proofs.Assembly.Waits

/-! The errors of a run over one service. Only the check of names raises one that is fatal. It
compares the name that was asked for with the name that the service model was read for, and a
session that reads the model of a service for that service itself passes it. Whatever else is wrong
with the documents of a service, the error is one that lets a run over several services go on with
the next, unless a shape of the service holds itself. So both are proved at once, of any errors that
the faults of a model are among. -/

namespace ResourceStubs

open Fallible

/-- The errors include all that let a run go on, and the search for a hint in the model raises no
others. -/
structure ServiceModel.FaultsAmong (model : ServiceModel) (errors : Error → Prop) : Prop where
  mild : ∀ e, e.isMild = true → errors e
  hint : ∀ name, RaisesOnly errors (model.hint name)

namespace ServiceModel

/-- No model has a fault that is fatal. -/
theorem faultsAmong_neverFatal (model : ServiceModel) : model.FaultsAmong (·.isFatal = false) where
  mild _ := Error.isFatal_of_isMild
  hint := model.neverFatal_hint

/-- Where no shape holds itself, a run goes on after every fault of the model. -/
theorem Acyclic.faultsAmong {model : ServiceModel} (h : model.Acyclic) :
    model.FaultsAmong (·.isMild = true) := ⟨fun _ => id, mild_hint h⟩

end ServiceModel

variable {errors : Error → Prop}

theorem ServiceModel.FaultsAmong.told {model : ServiceModel} (h : model.FaultsAmong errors)
    (e : Error) (he : IsTold e) : errors e := h.mild e he.isMild

/-- What a fault of the documents is decided by raises one of the errors. -/
theorem ServiceModel.FaultsAmong.of_decides {model : ServiceModel} (h : model.FaultsAmong errors)
    {α : Type} {x : Except Error α} {P : Prop} (hx : Decides x P) : RaisesOnly errors x :=
  hx.raisesOnly.mono h.told

/-! ### What is read from the shapes -/

namespace ShapeSource

variable {source : ShapeSource} (h : source.model.FaultsAmong errors)
include h

theorem raisesOnly_memberArgument (allOptional : Bool) (member : ServiceModel.Member) :
    RaisesOnly errors (source.memberArgument allOptional member) := by
  refine (h.hint _).bind fun hint _ => ?_
  split <;> exact .pure _

theorem raisesOnly_inputArguments (operationName : String) (params : List Binding)
    (allOptional : Bool) :
    RaisesOnly errors (source.inputArguments operationName params allOptional) := by
  refine (h.of_decides (source.model.operation_decides operationName)).bind fun operation _ => ?_
  cases operation.input with
  | none => exact .pure _
  | some input =>
    refine (h.of_decides (source.model.members_decides input.shape)).bind fun members _ => ?_
    exact (RaisesOnly.mapM fun member _ =>
      raisesOnly_memberArgument h allOptional member).bind_pure _

theorem raisesOnly_outputHint (operationName : String) :
    RaisesOnly errors (source.outputHint operationName) := by
  refine (h.of_decides (source.model.operation_decides operationName)).bind fun operation _ => ?_
  cases operation.output with
  | none => exact .pure _
  | some output => exact h.hint output.shape

theorem raisesOnly_actionMethod (name : String) (definition : ActionDefinition) :
    RaisesOnly errors (source.actionMethod name definition) := by
  rw [actionMethod]
  cases definition.request with
  | none => exact .pure _
  | some request =>
    refine (raisesOnly_inputArguments h _ _ _).bind fun arguments _ => ?_
    cases definition.resource with
    | some target => exact .pure _
    | none => exact (raisesOnly_outputHint h _).bind_pure _

theorem raisesOnly_waiterMethod (declared : String × WaiterDefinition) :
    RaisesOnly errors (source.waiterMethod declared) := by
  rw [waiterMethod]
  cases source.waiters.bind (·.waiters.get? declared.2.waiterName) with
  | none => exact .pure _
  | some config => exact (raisesOnly_inputArguments h _ _ _).bind_pure _

theorem raisesOnly_definitionMethods (definition : ResourceDefinition) :
    RaisesOnly errors (source.definitionMethods definition) :=
  (RaisesOnly.mapM fun declared _ => raisesOnly_actionMethod h _ declared.2).bind fun _ _ =>
    (RaisesOnly.mapM fun declared _ => raisesOnly_waiterMethod h declared).bind_pure _

theorem raisesOnly_filterMethod (className : String) (definition : ActionDefinition) :
    RaisesOnly errors (source.filterMethod className definition) := by
  rw [filterMethod]
  cases definition.request with
  | none => exact .pure _
  | some request => exact (raisesOnly_inputArguments h _ _ _).bind_pure _

theorem raisesOnly_batchMethod (declared : String × ActionDefinition) :
    RaisesOnly errors (source.batchMethod declared) := by
  rw [batchMethod]
  cases declared.2.request with
  | none => exact .pure _
  | some request =>
    refine (raisesOnly_inputArguments h _ _ _).bind fun arguments _ => ?_
    refine (h.of_decides (source.model.operation_decides _)).bind fun operation _ => ?_
    cases operation.output with
    | none => exact .pure _
    | some output => exact ((h.hint output.shape).map _).bind_pure _

theorem raisesOnly_collectionMethods (className : String) (definition : ActionDefinition) :
    RaisesOnly errors (source.collectionMethods className definition) :=
  (raisesOnly_filterMethod h className definition).bind fun _ _ =>
    (RaisesOnly.mapM fun declared _ => raisesOnly_batchMethod h declared).bind_pure _

end ShapeSource

/-- The oracle fails with one of these errors only. -/
def Oracle.RaisesOnly (errors : Error → Prop) (oracle : Oracle) : Prop :=
  ∀ asked, Fallible.RaisesOnly errors (oracle.ask asked)

/-- The oracle never stops a run. -/
def Oracle.NeverFatal (oracle : Oracle) : Prop := ∀ asked, Fallible.NeverFatal (oracle.ask asked)

/-- What an oracle reads from the shapes of a service raises faults of the model only. -/
theorem ShapeSource.raisesOnly_oracle {source : ShapeSource}
    (h : source.model.FaultsAmong errors) : source.oracle.RaisesOnly errors := by
  rintro (_ | name)
  · change RaisesOnly errors source.rootMethods
    rw [rootMethods]
    cases source.document.service with
    | none => exact .ok _
    | some definition => exact raisesOnly_definitionMethods h definition
  · change RaisesOnly errors (source.methodsOf name)
    rw [methodsOf]
    cases source.document.resources.get? name with
    | some definition => exact raisesOnly_definitionMethods h definition
    | none =>
      cases source.collectionClasses.find? (·.1 == name) with
      | none => exact .ok _
      | some entry => exact raisesOnly_collectionMethods h entry.1 entry.2

/-! ### Classes -/

section

variable {oracle : Oracle} (horacle : oracle.RaisesOnly errors) (service : ServiceName)
  (limit : Nat)
include horacle

theorem ResourceInstance.raisesOnly_collectionClasses (resource : ResourceInstance)
    (parentName : String) :
    RaisesOnly errors (resource.collectionClasses oracle service parentName) :=
  .mapM fun entry _ =>
    (horacle (some (collectionClassName parentName entry.1.name))).bind_pure _

omit horacle in
theorem ResourceInstance.raisesOnly_methods {resource : ResourceInstance}
    (h : resource.client.model.FaultsAmong errors) (name stubName : String)
    (known : Dict Method) :
    RaisesOnly errors (resource.methods service limit name stubName known) := by
  refine .mapM fun entry _ => ?_
  obtain ⟨signature, -, hmethod⟩ := resource.method_eq service limit name stubName known entry.2
  change RaisesOnly errors (resource.method service limit name stubName known entry.2)
  rw [hmethod]
  exact (h.of_decides (resource.documentation_decides name entry.2)).map _

theorem ResourceInstance.raisesOnly_body {resource : ResourceInstance}
    (h : resource.client.model.FaultsAmong errors) (name stubName : String)
    (known : Dict Method) :
    RaisesOnly errors (resource.body oracle service limit name stubName known) := by
  refine (raisesOnly_methods service limit h name stubName known).bind fun methods _ => ?_
  have hdata := resource.dataAttributes_settles h.told fun name =>
    Settles.of_raisesOnly (h.hint name)
  refine hdata.raisesOnly.bind fun data _ => ?_
  exact (resource.raisesOnly_collectionClasses horacle service name).bind_pure _

namespace ServiceContext

variable {context : ServiceContext} (h : context.model.FaultsAmong errors)
include h

/-- The class of a resource of the service, with the methods that an oracle knows. -/
theorem raisesOnly_ask_body {declared : String × ResourceDefinition} {resource : ResourceInstance}
    (hresource : context.instantiate declared = .ok resource) (name stubName : String)
    (asked : Option String) :
    RaisesOnly errors (oracle.ask asked >>= resource.body oracle service limit name stubName) :=
  (horacle asked).bind fun known _ =>
    resource.raisesOnly_body horacle service limit (model_of_instantiate hresource ▸ h) _ _ known

theorem raisesOnly_rootClass : RaisesOnly errors (context.rootClass oracle service limit) :=
  (h.of_decides (context.instantiate_decides context.root)).bind fun _ hroot =>
    raisesOnly_ask_body horacle service limit h hroot _ _ none

theorem raisesOnly_resourceClasses :
    RaisesOnly errors (context.resourceClasses oracle service limit) := by
  refine (RaisesOnly.mapM fun declared _ =>
    h.of_decides (context.instantiate_decides declared)).bind fun resources hresources => ?_
  refine .mapM fun resource hmem => ?_
  obtain ⟨declared, -, hresource⟩ := exists_of_mem_mapM hresources hmem
  exact raisesOnly_ask_body horacle service limit h hresource resource.type.nameInService
    resource.type.nameInService (some resource.type.nameInService)

end ServiceContext

end

/-! ### Runs -/

/-- A session gives for a service what does not stop a run: the model of the service is read for the
service itself. -/
structure Session.OwnDocuments (session : Session) (name : String) : Prop where
  document : Mild (session.resourceDocument name)
  model : Mild (session.serviceModel name)
  waiters : Mild (session.waiterModel name)
  serviceName : ∀ model, session.serviceModel name = .ok model → model.serviceName = name

namespace Session.OwnDocuments

variable {session : Session} {service : ServiceName} (h : session.OwnDocuments service.name)
include h

theorem mild_waiterModel? : Mild (session.waiterModel? service.name) := by
  rw [waiterModel?]
  have hwaiters := h.waiters
  split
  next => exact .ok _
  next => exact .ok _
  next e _ he => exact .error (hwaiters e he)

theorem mild_ofSession : Mild (ShapeSource.ofSession session service) :=
  h.model.bind fun _ _ => h.document.bind fun _ _ => h.mild_waiterModel?.bind_pure _

theorem mild_resource : Mild (session.resource service) := by
  refine h.document.bind fun document? _ => ?_
  cases document? with
  | none => exact .pure _
  | some document =>
    dsimp only
    split
    next => exact .pure _
    next =>
      refine (h.model.bind_pure _).bind fun client _ => ?_
      refine h.mild_waiterModel?.bind fun waiters _ => ?_
      have hresolve := document.root.resolve_decides serviceResource document.resources
      refine ((hresolve.raisesOnly.mono fun _ => IsTold.isMild).bind_pure _).bind fun type _ => ?_
      rw [ResourceInstance.ofPlaceholders_eq_ok]
      exact .pure _

variable (hmild : ∀ e, e.isMild = true → errors e)
  (hfaults : ∀ model, session.serviceModel service.name = .ok model → model.FaultsAmong errors)
include hmild hfaults

/-- A run over the documents of a service raises what its oracle does, and faults of its model. -/
theorem raisesOnly_stubs {oracle : Oracle} (horacle : oracle.RaisesOnly errors) (limit : Nat) :
    RaisesOnly errors (session.stubs oracle service limit) := by
  have hresource := h.mild_resource.mono hmild
  cases hr : session.resource service with
  | error e =>
    rw [stubs, hr]
    exact .error (hresource e hr)
  | ok resource? =>
    cases resource? with
    | none =>
      rw [stubs, hr]
      exact .pure _
    | some resource =>
      obtain ⟨context, hhas, hname⟩ := exists_has_of_resource hr
      have hmodel : session.serviceModel service.name = .ok context.model := hname ▸ hhas.model
      -- the one check that could stop the run compares a name with itself
      have hcheck : checkName service.name context.model.serviceName = .ok () :=
        checkName_eq_ok_iff.mpr (h.serviceName _ hmodel)
      have hmodel := hfaults _ hmodel
      rw [hhas.stubs hname, hcheck]
      exact (ServiceContext.raisesOnly_rootClass horacle service limit hmodel).bind fun body _ =>
        (ServiceContext.raisesOnly_resourceClasses horacle service limit hmodel).bind_pure _

/-- So it is with signatures from the shapes of the service. -/
theorem raisesOnly_stubsFromShapes (limit : Nat) :
    RaisesOnly errors (session.stubsFromShapes service limit) := by
  refine (h.mild_ofSession.mono hmild).bind fun source hsource => ?_
  have hmodel : session.serviceModel service.name = .ok source.model := by
    obtain ⟨model, hmodel, hsource⟩ := bind_eq_ok.mp hsource
    obtain ⟨document?, -, hsource⟩ := bind_eq_ok.mp hsource
    obtain ⟨waiters, -, hsource⟩ := bind_eq_ok.mp hsource
    obtain rfl := pure_eq_ok.mp hsource
    exact hmodel
  exact h.raisesOnly_stubs hmild hfaults (ShapeSource.raisesOnly_oracle (hfaults _ hmodel)) limit

end Session.OwnDocuments

/-! ### Errors that stop a run -/

namespace Session.OwnDocuments

variable {session : Session} {service : ServiceName} (h : session.OwnDocuments service.name)
include h

/-- No run over the documents of a service raises an error that is fatal, unless the oracle does. -/
theorem neverFatal_stubs {oracle : Oracle} (horacle : oracle.NeverFatal) (limit : Nat) :
    NeverFatal (session.stubs oracle service limit) :=
  h.raisesOnly_stubs (fun _ => Error.isFatal_of_isMild)
    (fun model _ => model.faultsAmong_neverFatal) horacle limit

theorem neverFatal_stubsFromShapes (limit : Nat) :
    NeverFatal (session.stubsFromShapes service limit) :=
  h.raisesOnly_stubsFromShapes (fun _ => Error.isFatal_of_isMild)
    (fun model _ => model.faultsAmong_neverFatal) limit

/-- Where no shape of the service holds itself, a run over several services goes on after it. -/
theorem mild_stubsFromShapes
    (hacyclic : ∀ model, session.serviceModel service.name = .ok model → model.Acyclic)
    (limit : Nat) : Mild (session.stubsFromShapes service limit) :=
  h.raisesOnly_stubsFromShapes (fun _ => id)
    (fun model hmodel => (hacyclic model hmodel).faultsAmong) limit

end Session.OwnDocuments

end ResourceStubs
