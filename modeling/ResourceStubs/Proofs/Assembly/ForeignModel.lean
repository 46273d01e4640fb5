import ResourceStubs.Command.Outcome
import ResourceStubs.Proofs.Assembly.Success

/-! A service whose documents hold the model of another service. The model is checked after the
class of the service resource is made, so what is wrong with that class comes first. The run fails
in any case. Where no shape of the model holds itself, it stops the command exactly if the
definition of the service resource fits the foreign model. This does not depend on the oracle, as
long as it answers. -/

namespace ResourceStubs

open Fallible

namespace ResourceDefinition

/-- All that the class of the definition is made from is there: the resource types of its
collections, the operations of its actions, and shapes that unfold for its data. -/
structure Fits (definition : ResourceDefinition) (resources : Dict ResourceDefinition)
    (model : ServiceModel) : Prop where
  collections : definition.CollectionsResolve resources
  actions : definition.ActionsServed model
  data : definition.DataHas model model.Unfolds

theorem fits_iff {definition : ResourceDefinition} {resources : Dict ResourceDefinition}
    {model : ServiceModel} :
    definition.Fits resources model ↔ definition.CollectionsResolve resources ∧
      definition.ActionsServed model ∧ definition.DataHas model model.Unfolds :=
  ⟨fun h => ⟨h.collections, h.actions, h.data⟩, fun ⟨hc, ha, hd⟩ => ⟨hc, ha, hd⟩⟩

end ResourceDefinition

/-! ### Any two oracles -/

section

variable {oracle oracle' : Oracle} (htotal : oracle.Total) (htotal' : oracle'.Total)
include htotal htotal'

namespace ResourceInstance

variable (resource : ResourceInstance)

/-- Whatever is known of its methods, the class of a resource fails alike. -/
theorem body_alike (service : ServiceName) (limit : Nat) (name stubName : String)
    (known known' : Dict Method) :
    (resource.body oracle service limit name stubName known).map (fun _ => ()) =
      (resource.body oracle' service limit name stubName known').map (fun _ => ()) := by
  obtain ⟨classes, hc⟩ := resource.collectionClasses_eq_ok htotal service name
  obtain ⟨classes', hc'⟩ := resource.collectionClasses_eq_ok htotal' service name
  refine Matches.map_eq_of_alike ?_
  have hmethods : Matches (fun _ => False) (List.Forall₂ fun a b => a.docstring = b.docstring)
      (resource.methods service limit name stubName known)
      (resource.methods service limit name stubName known') :=
    .mapM fun entry => .of_map_eq <| by simp only [ResourceInstance.method_docstring]
  refine hmethods.bind fun _ _ _ => (Matches.of_eq resource.dataAttributes).bind fun _ _ _ => ?_
  rw [hc, hc']
  rfl

end ResourceInstance

/-- So does the class of the service resource, whichever oracle answers. -/
theorem ServiceContext.rootClass_alike (context : ServiceContext) (service : ServiceName)
    (limit : Nat) :
    (context.rootClass oracle service limit).map (fun _ => ()) =
      (context.rootClass oracle' service limit).map (fun _ => ()) := by
  obtain ⟨known, hk⟩ := htotal none
  obtain ⟨known', hk'⟩ := htotal' none
  rw [rootClass, rootClass]
  cases context.instantiate context.root with
  | error e => rfl
  | ok root =>
    rw [ok_bind, ok_bind]
    change (oracle.ask none >>= root.body oracle service limit _ _).map _ =
      (oracle'.ask none >>= root.body oracle' service limit _ _).map _
    rw [hk, hk']
    exact root.body_alike htotal htotal' service limit _ _ known known'

end

namespace ServiceContext

/-- The class of the service resource is made exactly if its definition fits the model. -/
theorem rootClass_settles_fits (context : ServiceContext) {oracle : Oracle} (htotal : oracle.Total)
    {errors : Error → Prop} (htold : ∀ e, IsTold e → errors e)
    (hhint : ∀ name, Settles errors (context.model.hint name) (context.model.Unfolds name))
    (service : ServiceName) (limit : Nat) :
    Settles errors (context.rootClass oracle service limit)
      (context.document.root.Fits context.document.resources context.model) := by
  have hsilent : Settles errors (context.rootClass SignatureTable.empty.oracle service limit)
      (context.document.root.Fits context.document.resources context.model) := by
    rw [ResourceDefinition.fits_iff]
    have hresolved := (context.instantiate_decides context.root).mono htold
    refine hresolved.bind fun root hroot => ?_
    exact ask_body_settles hroot (SignatureTable.keyedByName_oracle .empty)
      SignatureTable.empty.total_oracle htold hhint service limit _ _ none
  exact hsilent.of_map_eq
    (context.rootClass_alike htotal SignatureTable.empty.total_oracle service limit)

/-- Otherwise its documents are at fault. -/
theorem rootClass_settles (context : ServiceContext) {oracle : Oracle} (htotal : oracle.Total)
    (service : ServiceName) (limit : Nat) :
    Settles IsFault (context.rootClass oracle service limit)
      (context.document.root.Fits context.document.resources context.model) :=
  context.rootClass_settles_fits htotal (fun _ => IsTold.isFault)
    (ServiceModel.hint_settles_unfolds context.model) service limit

/-- Where no shape of the model holds itself, the fault is found. -/
theorem rootClass_decides_fits (context : ServiceContext) {oracle : Oracle} (htotal : oracle.Total)
    (hacyclic : context.model.Acyclic) (service : ServiceName) (limit : Nat) :
    Decides (context.rootClass oracle service limit)
      (context.document.root.Fits context.document.resources context.model) :=
  context.rootClass_settles_fits htotal (fun _ he => he) (fun name =>
    (ServiceModel.hint_decides hacyclic name).congr (ServiceModel.maps_iff_unfolds hacyclic))
    service limit

end ServiceContext

namespace Session.Has

variable {session : Session} {context : ServiceContext} (h : session.Has context)
  {service : ServiceName} (hname : context.serviceName = service.name) {oracle : Oracle}
  (htotal : oracle.Total) (limit : Nat)
include h hname htotal

theorem stubs_of_root_unfit
    (hroot : ¬context.document.root.Fits context.document.resources context.model) :
    ∃ fault, session.stubs oracle service limit = .error (.introspection fault) := by
  obtain ⟨_, hbody, fault, rfl⟩ :=
    (context.rootClass_settles htotal service limit).exists_error hroot
  exact ⟨fault, h.stubs_of_rootClass_error hname hbody⟩

theorem stubs_of_root_unfit_of_acyclic (hacyclic : context.model.Acyclic)
    (hroot : ¬context.document.root.Fits context.document.resources context.model) :
    ∃ detail : String, session.stubs oracle service limit = .error (.introspection detail) := by
  obtain ⟨_, hbody, detail, rfl⟩ :=
    (context.rootClass_decides_fits htotal hacyclic service limit).exists_error hroot
  exact ⟨detail, h.stubs_of_rootClass_error hname hbody⟩

theorem stubs_of_root_fits
    (hroot : context.document.root.Fits context.document.resources context.model)
    (hforeign : context.model.serviceName ≠ service.name) :
    session.stubs oracle service limit =
      .error (.modelMismatch service.name context.model.serviceName) := by
  obtain ⟨body, hbody⟩ := (context.rootClass_settles htotal service limit).exists_ok hroot
  exact h.stubs_of_rootClass_ok hname hbody hforeign

end Session.Has

/-! ### Gadgets -/

namespace Gadgets

/-- The model of another service, without operations. -/
def widgets : ServiceModel where
  serviceName := "widget"
  metadata := .empty
  operations := .empty
  shapes := .empty
  documentation := none

/-- Gadgets have parts, and a service resource with some actions. -/
def document (actions : Dict ActionDefinition) : ResourceDocument where
  service := some { ResourceDefinition.empty with actions }
  resources := .ofList [("Part", .empty)]

def documents (actions : Dict ActionDefinition) : ServiceDocuments :=
  ⟨widgets, some (document actions), none⟩

def store (actions : Dict ActionDefinition) : MemoryStore :=
  ⟨.ofList [("gadget", documents actions)]⟩

def service : ServiceName := .ofNames "gadget" "Gadget"

/-- An operation of gadgets, which is none of widgets. -/
def ping : ActionDefinition := ⟨some ⟨"PingGadget", []⟩, none, none⟩

theorem store_has (actions : Dict ActionDefinition) :
    (store actions).session.Has ⟨"gadget", document actions, widgets, none⟩ :=
  @MemoryStore.has (store actions) "gadget" (documents actions) (document actions) rfl rfl rfl

theorem fits_withoutActions :
    (document .empty).root.Fits (document .empty).resources widgets where
  collections := by
    intro declared hd
    exact (List.not_mem_nil hd).elim
  actions := .of_forall_actions fun declared hd => (List.not_mem_nil hd).elim
  data := by
    rintro shape ⟨⟩

theorem not_actionsServed_ping :
    ¬(document (.ofList [("Ping", ping)])).root.ActionsServed widgets := by
  intro h
  have hping : (document (.ofList [("Ping", ping)])).root.publicCallables.get? "ping" =
      some (.action "ping" ping) := by
    have hsnake : Naming.snakeCase "Ping" = "ping" := by decide +kernel
    have hcallables : (Schema.outline "" (document (.ofList [("Ping", ping)])).root).callables =
        [.action (Naming.snakeCase "Ping") ping,
          .availableSubresources "get_available_subresources"
            (Schema.outline "" (document (.ofList [("Ping", ping)])).root).subResourceNames] := rfl
    rw [ResourceDefinition.publicCallables, Schema.get?_publicCallables, hcallables, hsnake]
    rfl
  exact absurd (h "ping" _ hping "PingGadget" rfl) (by decide)

end Gadgets

namespace MemoryStore

/-- How a run ends over the model of another service, with any oracle that answers. Where the
service resource fits that model, the model is found to be of another service, which stops the
command. Otherwise the documents are at fault. The fault is found unless a shape of the model holds
itself, and the command skips the service. -/
theorem stubs_of_foreign_model (store : MemoryStore) (service : ServiceName) (limit : Nat)
    {oracle : Oracle} (htotal : oracle.Total) {documents : ServiceDocuments}
    {document : ResourceDocument} (hregistered : store.services.get? service.name = some documents)
    (hdocument : documents.resources = some document) (hnonempty : document.isEmpty = false)
    (hforeign : documents.model.serviceName ≠ service.name) :
    let outcome := store.session.stubs oracle service limit
    let mismatch := Error.modelMismatch service.name documents.model.serviceName
    (document.root.Fits document.resources documents.model →
      outcome = .error mismatch ∧ Command.Outcome.ofResult outcome = .error mismatch) ∧
    (¬document.root.Fits document.resources documents.model →
      (∃ fault, outcome = .error (.introspection fault)) ∧
      (documents.model.Acyclic →
        ∃ detail : String, outcome = .error (.introspection detail) ∧
          Command.Outcome.ofResult outcome = .ok (.skipped (.introspection detail)))) := by
  intro outcome mismatch
  have hhas := store.has hregistered hdocument hnonempty
  refine ⟨fun hfits => ?_, fun hunfit => ⟨hhas.stubs_of_root_unfit rfl htotal limit hunfit, ?_⟩⟩
  · have hrun : outcome = .error mismatch := hhas.stubs_of_root_fits rfl htotal limit hfits hforeign
    refine ⟨hrun, ?_⟩
    rw [hrun]
    rfl
  · intro hacyclic
    obtain ⟨detail, hrun⟩ := hhas.stubs_of_root_unfit_of_acyclic rfl htotal limit hacyclic hunfit
    have hrun : outcome = .error (.introspection detail) := hrun
    refine ⟨detail, hrun, ?_⟩
    rw [hrun]
    rfl

theorem stubs_of_foreign_model_gadgets :
    (Gadgets.store .empty).session.stubs Oracle.silent Gadgets.service 300 =
        .error (.modelMismatch "gadget" "widget") ∧
      Command.Outcome.ofResult
          ((Gadgets.store .empty).session.stubs Oracle.silent Gadgets.service 300) =
        .error (.modelMismatch "gadget" "widget") := by
  have htotal : Oracle.silent.Total := by
    rintro (_ | className) <;> exact ⟨_, rfl⟩
  exact (stubs_of_foreign_model (Gadgets.store .empty) Gadgets.service 300 htotal rfl rfl rfl
    (by decide)).1 Gadgets.fits_withoutActions

/-- A foreign model may go unnoticed: the service resource of the gadgets has an action whose
operation is missing in the model of the widgets, and this error does not stop the command. -/
theorem not_forall_foreign_isFatal : ¬∀ (store : MemoryStore) (service : ServiceName) (limit : Nat)
    (oracle : Oracle) (documents : ServiceDocuments) (document : ResourceDocument), oracle.Total →
      store.services.get? service.name = some documents →
      documents.resources = some document → document.isEmpty = false →
      documents.model.serviceName ≠ service.name →
      ∃ e, store.session.stubs oracle service limit = .error e ∧ e.isFatal = true := by
  intro h
  obtain ⟨e, hrun, hfatal⟩ := h (Gadgets.store (.ofList [("Ping", Gadgets.ping)])) Gadgets.service
    300 SignatureTable.empty.oracle _ _ SignatureTable.empty.total_oracle rfl rfl rfl (by decide)
  have hname : "gadget" = Gadgets.service.name := rfl
  have hhas := Gadgets.store_has (.ofList [("Ping", Gadgets.ping)])
  obtain ⟨fault, hfault⟩ := hhas.stubs_of_root_unfit hname SignatureTable.empty.total_oracle 300
    fun hfits => Gadgets.not_actionsServed_ping hfits.actions
  cases hrun.symm.trans hfault
  cases hfatal

end MemoryStore

end ResourceStubs
