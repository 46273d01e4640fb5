import ResourceStubs.Proofs.Assembly.CollectionNames
import ResourceStubs.Proofs.Oracle.References

/-! The service of all stub classes of a run. The name of the service comes to a hint in three ways:
with the service that is asked for, with the context of a resource, and with the source of derived
signatures. All three are one name, and with an oracle that knows of no other the stub classes refer
to classes of the one service only, whatever hints are made of. -/

namespace ResourceStubs

open Fallible

namespace ResourceInstance

variable {resource : ResourceInstance}

/-! ### Methods -/

theorem belongsTo_of_actionHint {definition : ActionDefinition} {hint : TypeHint}
    (h : resource.actionHint definition = .ok hint) : hint.BelongsTo resource.serviceName := by
  rw [actionHint] at h
  split at h
  next =>
    obtain rfl := Except.ok.inj h
    exact TypeHint.belongsTo_hint _
  next =>
    obtain ⟨operation, -, h⟩ := bind_eq_ok.mp h
    split at h
    all_goals
      obtain rfl := pure_eq_ok.mp h
      exact .of_references_eq_nil rfl
  next =>
    obtain rfl := Except.ok.inj h
    exact .of_references_eq_nil rfl

theorem belongsTo_of_schemaSignature {callable : Callable} {method : Method}
    (h : resource.schemaSignature callable = .ok method) :
    method.BelongsTo resource.serviceName := by
  cases callable with
  | action name definition =>
    obtain ⟨returns, hreturns, h⟩ := bind_eq_ok.mp h
    obtain rfl := pure_eq_ok.mp h
    exact Method.belongsTo_of_keywords (belongsTo_of_actionHint hreturns)
  | waiter =>
    obtain rfl := Except.ok.inj h
    exact Method.belongsTo_of_keywords (.of_references_eq_nil rfl)
  | subResource name target =>
    obtain rfl := Except.ok.inj h
    refine Method.belongsTo_ofSignature (List.forall_mem_cons.mpr ⟨Argument.belongsTo_self, ?_⟩)
      (TypeHint.belongsTo_reference _ _)
    exact List.forall_mem_map.mpr fun binding _ =>
      Argument.belongsTo_typed (.of_references_eq_nil rfl) _
  | load | availableSubresources =>
    obtain rfl := Except.ok.inj h
    exact Method.belongsTo_of_self (.of_references_eq_nil rfl)

/-- The documentation of a method says nothing about its hints. -/
theorem belongsTo_of_method {service : ServiceName} {limit : Nat} {name stubName : String}
    {known : Dict Method} (hknown : MethodsBelongTo resource.serviceName known)
    {callable : Callable} {method : Method}
    (h : resource.method service limit name stubName known callable = .ok method) :
    method.BelongsTo resource.serviceName := by
  obtain ⟨signature, hsignature, h⟩ := bind_eq_ok.mp h
  obtain ⟨text, -, h⟩ := bind_eq_ok.mp h
  obtain rfl := pure_eq_ok.mp h
  have hbelongs : signature.BelongsTo resource.serviceName := by
    rw [signature_usual] at hsignature
    split at hsignature
    next found hfound =>
      obtain rfl := Except.ok.inj hsignature
      exact hknown _ _ hfound
    next => exact belongsTo_of_schemaSignature hsignature
  exact hbelongs

/-! ### Attributes -/

theorem belongsTo_of_dataAttributes {service : String} {data : List Attribute}
    (h : resource.dataAttributes = .ok data) : ∀ member ∈ data, member.hint.BelongsTo service := by
  intro member hmem
  rw [dataAttributes] at h
  split at h
  next =>
    obtain rfl := Except.ok.inj h
    cases hmem
  next =>
    obtain ⟨members, -, h⟩ := bind_eq_ok.mp h
    obtain ⟨declared, -, hmember⟩ := exists_of_mem_mapM h hmem
    obtain ⟨hint, hhint, hmember⟩ := bind_eq_ok.mp hmember
    obtain rfl := pure_eq_ok.mp hmember
    exact ServiceModel.belongsTo_of_hint hhint

theorem belongsTo_identifierAttributes {service : String} :
    ∀ member ∈ resource.identifierAttributes, member.hint.BelongsTo service :=
  List.forall_mem_map.mpr fun _ _ => .of_references_eq_nil rfl

theorem belongsTo_referenceAttributes :
    ∀ member ∈ resource.referenceAttributes, member.hint.BelongsTo resource.serviceName :=
  List.forall_mem_map.mpr fun reference _ => TypeHint.belongsTo_hint reference.target

end ResourceInstance

/-! ### Collections -/

theorem belongsTo_knownOr {service : String} {known : Dict Method}
    (hknown : MethodsBelongTo service known) {returns : TypeHint} (h : returns.BelongsTo service)
    (name : String) : (knownOr known name returns).BelongsTo service := by
  rw [knownOr]
  cases hfound : known.get? name with
  | none => exact Method.belongsTo_of_keywords h
  | some method => exact hknown name method hfound

theorem belongsTo_managerMethods {service : String} {known : Dict Method}
    (hknown : MethodsBelongTo service known) (collection : CollectionSchema)
    {itself element : TypeHint} (hitself : itself.BelongsTo service)
    (helement : element.BelongsTo service) :
    ∀ method ∈ managerMethods known collection itself element, method.BelongsTo service := by
  have hcount (name : String) : (Method.ofSignature name
      [Argument.self, Argument.typed "count" .int] itself).BelongsTo service :=
    Method.belongsTo_ofSignature (List.forall_mem_cons.mpr ⟨Argument.belongsTo_self,
      List.forall_mem_singleton.mpr (Argument.belongsTo_typed (.of_references_eq_nil rfl) _)⟩)
      hitself
  have hbatch : batchHint.BelongsTo service := .of_references_eq_nil rfl
  simp only [managerMethods, List.forall_mem_append, List.forall_mem_cons, List.forall_mem_map]
  exact ⟨⟨⟨Method.belongsTo_of_self hitself, belongsTo_knownOr hknown hitself _, nofun⟩,
    fun action _ => belongsTo_knownOr hknown hbatch _⟩,
    hcount _, hcount _, Method.belongsTo_of_self helement.list.iterator,
    Method.belongsTo_of_self helement.iterator, nofun⟩

theorem belongsTo_of_collectionClass {oracle : Oracle} {service : ServiceName}
    (horacle : oracle.BelongsTo service.name) {parentName : String} {collection : CollectionSchema}
    {target : Target} {stub : Collection}
    (h : collectionClass oracle service parentName collection target = .ok stub) :
    stub.BelongsTo service := by
  obtain ⟨known, hknown, h⟩ := bind_eq_ok.mp h
  obtain rfl := pure_eq_ok.mp h
  have helement : (TypeHint.reference target.typeName service.name true).BelongsTo service.name :=
    TypeHint.belongsTo_reference _ _
  refine ⟨rfl, List.forall_mem_cons.mpr ⟨helement, List.forall_mem_flatMap.mpr ?_⟩⟩
  exact belongsTo_managerMethods (horacle (some _) known hknown) collection
    (TypeHint.belongsTo_reference _ _) helement

/-! ### Classes -/

theorem belongsTo_of_body {oracle : Oracle} {service : ServiceName}
    (horacle : oracle.BelongsTo service.name) {resource : ResourceInstance}
    (hown : resource.serviceName = service.name) {limit : Nat} {name stubName : String}
    {known : Dict Method} (hknown : MethodsBelongTo service.name known) {stub : Resource}
    (h : resource.body oracle service limit name stubName known = .ok stub) :
    stub.BelongsTo service := by
  obtain ⟨methods, hmethods, h⟩ := bind_eq_ok.mp h
  obtain ⟨data, hdata, h⟩ := bind_eq_ok.mp h
  obtain ⟨collections, hcollections, h⟩ := bind_eq_ok.mp h
  obtain rfl := pure_eq_ok.mp h
  refine Resource.belongsTo_of_parts rfl (fun method hmem => ?_) ?_ (fun collection hmem => ?_)
  · obtain ⟨entry, -, hmethod⟩ := exists_of_mem_mapM hmethods hmem
    exact hown ▸ ResourceInstance.belongsTo_of_method (hown ▸ hknown) hmethod
  · simp only [List.forall_mem_append, List.forall_mem_map]
    exact ⟨⟨⟨ResourceInstance.belongsTo_of_dataAttributes hdata,
      ResourceInstance.belongsTo_identifierAttributes⟩,
      hown ▸ ResourceInstance.belongsTo_referenceAttributes⟩,
      fun collection _ => TypeHint.belongsTo_reference _ _⟩
  · obtain ⟨entry, -, hclass⟩ := exists_of_mem_mapM hcollections hmem
    exact belongsTo_of_collectionClass horacle hclass

namespace ServiceContext

variable {context : ServiceContext}

theorem serviceName_of_instantiate {declared : String × ResourceDefinition}
    {resource : ResourceInstance} (h : context.instantiate declared = .ok resource) :
    resource.serviceName = context.serviceName := by
  obtain ⟨schema, -, rfl⟩ := map_eq_ok.mp h
  rfl

end ServiceContext

namespace Session

/-- An oracle that refers to classes of the service only leaves all stub classes with that
service. -/
theorem belongsTo_of_oracle {session : Session} {service : ServiceName} {oracle : Oracle}
    (horacle : oracle.BelongsTo service.name) {limit : Nat} {root : ServiceResource}
    (h : session.stubs oracle service limit = .ok (some root)) : root.BelongsTo service := by
  obtain ⟨context, body, classes, -, hname, hbody, -, hclasses, rfl⟩ := exists_steps_of_stubs h
  obtain ⟨resource, hr, hbody⟩ := bind_eq_ok.mp hbody
  obtain ⟨known, hknown, hbody⟩ := bind_eq_ok.mp hbody
  have hown := (ServiceContext.serviceName_of_instantiate hr).trans hname
  refine ServiceResource.belongsTo_ofResource
    (belongsTo_of_body horacle hown (horacle none known hknown) hbody) fun stub hmem => ?_
  have hothers : List.Forall₂ (fun _ stub => stub.BelongsTo service)
      context.document.resources.entries classes :=
    ServiceContext.forall₂_of_resourceClasses hclasses fun _ _ known _ hr hknown hbody =>
      belongsTo_of_body horacle ((ServiceContext.serviceName_of_instantiate hr).trans hname)
        (horacle (some _) known hknown) hbody
  obtain ⟨_, -, hbelongs⟩ := exists_of_forall₂_of_mem hothers.flip hmem
  exact hbelongs

/-- Without signatures, and with those from the shapes of the service, all stub classes are those of
the service that was asked for, and so is every class that their hints refer to at any depth. -/
theorem stubs_belongTo (session : Session) (service : ServiceName) (limit : Nat) {oracle : Oracle}
    (horacle : oracle = SignatureTable.empty.oracle ∨
      ∃ source, ShapeSource.ofSession session service = .ok source ∧ oracle = source.oracle)
    {root : ServiceResource} (h : session.stubs oracle service limit = .ok (some root)) :
    root.BelongsTo service := by
  have hbelongs : oracle.BelongsTo service.name := by
    rcases horacle with rfl | ⟨source, hsource, rfl⟩
    · exact SignatureTable.belongsTo_empty service.name
    · -- the source has kept the name that it was made for
      have hname : source.serviceName = service.name := by
        obtain ⟨model, -, hsource⟩ := bind_eq_ok.mp hsource
        obtain ⟨document, -, hsource⟩ := bind_eq_ok.mp hsource
        obtain ⟨waiters, -, hsource⟩ := bind_eq_ok.mp hsource
        obtain rfl := pure_eq_ok.mp hsource
        rfl
      exact hname ▸ source.belongsTo_oracle
  exact belongsTo_of_oracle hbelongs h

end Session

namespace Harbour

/-- The classes that stubs of a harbour refer to. -/
def referred (root : ServiceResource) : List (String × String) :=
  (root.hints.flatMap TypeHint.references).eraseDups

theorem exists_referred_gantry : ∃ root,
    (store "Gantry").session.stubs (source "Gantry").oracle service 300 = .ok (some root) ∧
      referred root = [("DockCraneHooksCollection", "harbour"), ("Hook", "harbour"),
        ("GantryHooksCollection", "harbour")] :=
  exists_of_map_eq_ok (by decide +kernel)

theorem exists_referred_unsigned : ∃ root,
    (store "Gantry").session.stubs SignatureTable.empty.oracle service 300 = .ok (some root) ∧
      referred root = [("DockCraneHooksCollection", "harbour"), ("Hook", "harbour"),
        ("GantryHooksCollection", "harbour")] :=
  exists_of_map_eq_ok (by decide +kernel)

end Harbour

namespace Session

/-- All that a harbour refers to are its own collections and hooks, whether or not its shapes are
looked at. -/
theorem stubs_belongTo_gantry :
    (∃ root, (Harbour.store "Gantry").session.stubs SignatureTable.empty.oracle Harbour.service
        300 = .ok (some root) ∧ root.BelongsTo Harbour.service ∧ Harbour.referred root ≠ []) ∧
    ∃ root, (Harbour.store "Gantry").session.stubs (Harbour.source "Gantry").oracle Harbour.service
        300 = .ok (some root) ∧ root.BelongsTo Harbour.service ∧ Harbour.referred root ≠ [] := by
  obtain ⟨root, h, hreferred⟩ := Harbour.exists_referred_unsigned
  obtain ⟨derived, hderived, hreferred'⟩ := Harbour.exists_referred_gantry
  have hsource := Harbour.ofSession_eq "Gantry"
  exact ⟨⟨root, h, stubs_belongTo _ _ _ (.inl rfl) h, by simp [hreferred]⟩,
    derived, hderived, stubs_belongTo _ _ _ (.inr ⟨_, hsource, rfl⟩) hderived, by simp [hreferred']⟩

end Session

end ResourceStubs
