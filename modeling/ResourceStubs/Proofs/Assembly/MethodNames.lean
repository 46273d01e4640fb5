import ResourceStubs.Proofs.Assembly.Success

/-! The names of the methods of a resource. They increase strictly and are the names that the
definition of the resource offers, without the private ones. The names are those of the methods
themselves: an oracle that has every method under its own name cannot bring in another. -/

namespace ResourceStubs

open Fallible

/-- The names increase strictly and are those that the definition offers and that are not
private. -/
def ResourceDefinition.NamesMethods (definition : ResourceDefinition) (names : List String) :
    Prop :=
  names.Pairwise (· < ·) ∧
    ∀ called, called ∈ names ↔ called.toList.head? ≠ some '_' ∧ definition.Offers called

namespace ResourceInstance

variable (resource : ResourceInstance)

/-- Every method of a resource is called by the name that its callable is sorted by, or like the
method that is known under that name. -/
theorem names_of_methods {service : ServiceName} {limit : Nat} {name stubName : String}
    {known : Dict Method} {methods : List Method}
    (h : resource.methods service limit name stubName known = .ok methods) :
    methods.map (·.name) =
      (resource.schema.sortedCallables.map Prod.fst).map (nameAmong known) := by
  have hcallables : resource.schema.sortedCallables.map (·.2.name) =
      resource.schema.sortedCallables.map Prod.fst := by
    refine List.map_congr_left fun entry he => ?_
    exact Schema.name_of_mem_publicCallables _ (Schema.mem_sortedCallables _ |>.mp he)
  rw [← hcallables, List.map_map]
  refine (map_eq_map_of_forall₂ ((mapM_eq_ok.mp h).imp fun entry method hm => ?_)).symm
  exact (resource.name_of_method hm).symm

theorem names_of_body {oracle : Oracle} {service : ServiceName} {limit : Nat}
    {name stubName : String} {known : Dict Method} {stub : Resource}
    (h : resource.body oracle service limit name stubName known = .ok stub) :
    stub.methodNames = (resource.schema.sortedCallables.map Prod.fst).map (nameAmong known) := by
  obtain ⟨-, hmethods, -⟩ := resource.parts_of_body h
  exact resource.names_of_methods hmethods

/-- If the known methods stand under their own names, these are the names of the methods. -/
theorem names_of_body_of_keyedByName {oracle : Oracle} {service : ServiceName} {limit : Nat}
    {name stubName : String} {known : Dict Method} (hknown : KeyedByName known) {stub : Resource}
    (h : resource.body oracle service limit name stubName known = .ok stub) :
    stub.methodNames = resource.schema.sortedCallables.map Prod.fst := by
  rw [resource.names_of_body h, List.map_congr_left fun called _ => nameAmong_eq_self hknown called,
    List.map_id']

end ResourceInstance

namespace ServiceContext

variable {context : ServiceContext} {oracle : Oracle} (hkeyed : oracle.KeyedByName)
  {service : ServiceName} {limit : Nat}

theorem namesMethods_sortedCallables {declared : String × ResourceDefinition}
    {resource : ResourceInstance} (h : context.instantiate declared = .ok resource) :
    declared.2.NamesMethods (resource.schema.sortedCallables.map Prod.fst) := by
  obtain ⟨collections, rfl⟩ := instantiate_eq_ok h
  exact ⟨Schema.sortedCallables_pairwise _,
    fun called => Schema.mem_sortedCallables_outline declared.1 declared.2⟩

include hkeyed

theorem namesMethods_of_rootClass {stub : Resource}
    (h : context.rootClass oracle service limit = .ok stub) :
    context.document.root.NamesMethods stub.methodNames := by
  obtain ⟨root, hroot, h⟩ := bind_eq_ok.mp h
  obtain ⟨known, hk, h⟩ := bind_eq_ok.mp h
  rw [root.names_of_body_of_keyedByName (hkeyed none known hk) h]
  exact namesMethods_sortedCallables hroot

theorem namesMethods_of_resourceClasses {stubs : List Resource}
    (h : context.resourceClasses oracle service limit = .ok stubs) :
    List.Forall₂ (fun declared stub => declared.2.NamesMethods stub.methodNames)
      context.document.resources.entries stubs := by
  refine forall₂_of_resourceClasses h fun declared resource known stub hr hknown hbody => ?_
  rw [resource.names_of_body_of_keyedByName (hkeyed (some _) known hknown) hbody]
  exact namesMethods_sortedCallables hr

end ServiceContext

namespace Session

/-- With a table of signatures, however it is filled, and with the oracle over the documents of the
service, all classes have the methods that their definitions offer. -/
theorem methodNames_of_stubs (session : Session) (service : ServiceName) (limit : Nat)
    {oracle : Oracle}
    (horacle : (∃ table : SignatureTable, table.Filled ∧ oracle = table.oracle) ∨
      ∃ source, ShapeSource.ofSession session service = .ok source ∧ oracle = source.oracle)
    {root : ServiceResource} (h : session.stubs oracle service limit = .ok (some root)) :
    ∃ document, session.resourceDocument service.name = .ok (some document) ∧
      document.root.NamesMethods root.methodNames ∧
      List.Forall₂ (fun declared resource => declared.2.NamesMethods resource.methodNames)
        document.resources.entries root.subResources := by
  have hkeyed : oracle.KeyedByName := by
    rcases horacle with ⟨table, hfilled, rfl⟩ | ⟨source, -, rfl⟩
    · exact SignatureTable.keyedByName_oracle hfilled
    · exact source.keyedByName_oracle
  obtain ⟨context, hhas, hname⟩ := exists_has_of_stubs h
  rw [hhas.stubs hname] at h
  obtain ⟨body, hbody, h⟩ := bind_eq_ok.mp h
  obtain ⟨_, _, h⟩ := bind_eq_ok.mp h
  obtain ⟨classes, hclasses, h⟩ := bind_eq_ok.mp h
  obtain rfl := Option.some.inj (pure_eq_ok.mp h)
  refine ⟨context.document, hname ▸ hhas.document, ?_, ?_⟩
  · exact ServiceContext.namesMethods_of_rootClass hkeyed hbody
  · exact ServiceContext.namesMethods_of_resourceClasses hkeyed hclasses

theorem methodNames_of_stubs_shop :
    ∃ root, Shop.store.session.stubs Shop.source.oracle Shop.service 120 = .ok (some root) ∧
      ∃ document, Shop.store.session.resourceDocument "shop" = .ok (some document) ∧
        document.root.NamesMethods root.methodNames ∧
        List.Forall₂ (fun declared resource => declared.2.NamesMethods resource.methodNames)
          document.resources.entries root.subResources := by
  obtain ⟨root, h⟩ := Shop.exists_stubs Shop.source.keyedByName_oracle Shop.total_source 120
  exact ⟨root, h, methodNames_of_stubs _ _ _ (.inr ⟨Shop.source, rfl, rfl⟩) h⟩

end Session

end ResourceStubs
