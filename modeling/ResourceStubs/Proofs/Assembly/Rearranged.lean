import Mathlib.Data.List.Perm.Basic
import ResourceStubs.Proofs.Assembly.CollectionNames
import ResourceStubs.Proofs.Assembly.Waits

/-! The order in which a document declares its resource types. The class of a resource type is made
from its own definition, and of the others it only needs those that its collections lead to, by
their names. So each resource type has the same class in whatever order the types are declared, and
the classes of a run are in the order of the types. A run fails if any of the classes cannot be
made. -/

namespace ResourceStubs

open Fallible

/-! ### Another document -/

/-- The context with another resource document. -/
def ServiceContext.withDocument (context : ServiceContext) (document : ResourceDocument) :
    ServiceContext :=
  { context with document }

namespace ResourceInstance

/-- The resource under another resource document. -/
def withDocument (resource : ResourceInstance) (document : ResourceDocument) : ResourceInstance :=
  { resource with
    type := { resource.type with context := resource.type.context.withDocument document } }

end ResourceInstance

namespace ServiceContext

/-- The class of a declared resource type. -/
def resourceClass (context : ServiceContext) (oracle : Oracle) (service : ServiceName) (limit : Nat)
    (declared : String × ResourceDefinition) : Except Error Resource :=
  context.instantiate declared >>= fun resource =>
    resource.toStub oracle service limit resource.type.nameInService

variable {context : ServiceContext} {document : ResourceDocument} (oracle : Oracle)
  (service : ServiceName) (limit : Nat)

/-- The classes of all resource types are there if each of them is. -/
theorem resourceClasses_eq_ok_iff {stubs : List Resource} :
    context.resourceClasses oracle service limit = .ok stubs ↔
      context.document.resources.entries.mapM (context.resourceClass oracle service limit) =
        .ok stubs :=
  mapM_bind_eq_ok_iff

section

variable (hperm : context.document.resources.entries.Perm document.resources.entries)
include hperm

theorem instantiate_withDocument (declared : String × ResourceDefinition) :
    (context.withDocument document).instantiate declared =
      (context.instantiate declared).map (·.withDocument document) := by
  have hresolve := congrFun (congrFun (Schema.resolve_of_perm hperm) declared.1) declared.2
  simp only [instantiate, withDocument, ← hresolve]
  cases Schema.resolve declared.1 declared.2 context.document.resources <;> rfl

theorem resourceClass_withDocument :
    (context.withDocument document).resourceClass oracle service limit =
      context.resourceClass oracle service limit := by
  funext declared
  rw [resourceClass, resourceClass, instantiate_withDocument hperm]
  cases context.instantiate declared <;> rfl

theorem rootClass_withDocument (hservice : document.service = context.document.service) :
    (context.withDocument document).rootClass oracle service limit =
      context.rootClass oracle service limit := by
  have hroot : (context.withDocument document).root = context.root := by
    simp only [root, withDocument, ResourceDocument.root, hservice]
  rw [rootClass, rootClass, hroot, instantiate_withDocument hperm]
  cases context.instantiate context.root <;> rfl

end

/-- The class that a declared resource type has, if it has one. -/
def classOf (context : ServiceContext) (declared : String × ResourceDefinition) : Resource :=
  (context.resourceClass oracle service limit declared).toOption.getD default

/-- In whatever order the resource types are declared, all classes are there or one is missing, and
each has its class. -/
theorem resourceClasses_withDocument
    (hperm : context.document.resources.entries.Perm document.resources.entries)
    {stubs : List Resource} (h : context.resourceClasses oracle service limit = .ok stubs) :
    (context.withDocument document).resourceClasses oracle service limit =
        .ok (document.resources.entries.map (context.classOf oracle service limit)) ∧
      stubs = context.document.resources.entries.map (context.classOf oracle service limit) := by
  rw [resourceClasses_eq_ok_iff, mapM_eq_ok_iff_map] at h
  obtain ⟨hall, rfl⟩ := h
  refine ⟨?_, rfl⟩
  rw [resourceClasses_eq_ok_iff, resourceClass_withDocument oracle service limit hperm,
    mapM_eq_ok_iff_map]
  exact ⟨fun declared hd => hall declared (hperm.mem_iff.mpr hd), rfl⟩

end ServiceContext

namespace Session

variable {session session' : Session} {service : ServiceName}
  {document document' : ResourceDocument}

theorem isEmpty_of_perm (hservice : document'.service = document.service)
    (hperm : document.resources.entries.Perm document'.resources.entries) :
    document'.isEmpty = document.isEmpty := by
  simp only [ResourceDocument.isEmpty, hservice, Dict.isEmpty, hperm.isEmpty_eq]

/-- A session with the same models and the resource types in another order has a document of the
same context. -/
theorem Has.of_perm {context : ServiceContext} (h : session.Has context)
    (hd' : session'.resourceDocument context.serviceName = .ok (some document'))
    (hmodel : session.serviceModel context.serviceName = session'.serviceModel context.serviceName)
    (hwaiters : session.waiterModel context.serviceName = session'.waiterModel context.serviceName)
    (hservice : document'.service = context.document.service)
    (hperm : context.document.resources.entries.Perm document'.resources.entries) :
    session'.Has (context.withDocument document') where
  document := hd'
  nonempty := (isEmpty_of_perm hservice hperm).trans h.nonempty
  model := hmodel.symm.trans h.model
  waiters := by
    have hw := h.waiters
    rw [waiterModel?, hwaiters] at hw
    exact hw

/-- A run that gives classes gives the same in another order of the resource types. -/
theorem exists_stubs_of_perm {oracle : Oracle} {limit : Nat}
    (hd : session.resourceDocument service.name = .ok (some document))
    (hd' : session'.resourceDocument service.name = .ok (some document'))
    (hmodel : session.serviceModel service.name = session'.serviceModel service.name)
    (hwaiters : session.waiterModel service.name = session'.waiterModel service.name)
    (hservice : document'.service = document.service)
    (hperm : document.resources.entries.Perm document'.resources.entries) {root : ServiceResource}
    (h : session.stubs oracle service limit = .ok (some root)) :
    ∃ classOf : String × ResourceDefinition → Resource,
      session'.stubs oracle service limit =
        .ok (some { root with subResources := document'.resources.entries.map classOf }) ∧
      root.subResources = document.resources.entries.map classOf := by
  obtain ⟨context, body, classes, hhas, hname, hbody, hmodel', hclasses, rfl⟩ :=
    exists_steps_of_stubs h
  rw [← hname] at hd hd' hmodel hwaiters
  obtain rfl : document = context.document :=
    Option.some.inj (Except.ok.inj (hd.symm.trans hhas.document))
  have hhas' := hhas.of_perm hd' hmodel hwaiters hservice hperm
  obtain ⟨hothers, heq⟩ :=
    ServiceContext.resourceClasses_withDocument oracle service limit hperm hclasses
  have hcheck : checkName service.name context.model.serviceName = .ok () :=
    checkName_eq_ok_iff.mpr hmodel'
  refine ⟨context.classOf oracle service limit, ?_, heq⟩
  rw [hhas'.stubs hname,
    ServiceContext.rootClass_withDocument oracle service limit hperm hservice, hbody, ok_bind]
  change (checkName service.name context.model.serviceName >>= fun _ => _) = _
  rw [hcheck, ok_bind, hothers]
  rfl

theorem isEmpty_iff_of_stubs {oracle : Oracle} {limit : Nat}
    (hd : session.resourceDocument service.name = .ok (some document)) :
    session.stubs oracle service limit = .ok none ↔ document.isEmpty = true := by
  constructor
  · intro h
    by_contra hne
    have hr := stubs_eq_none_iff.mp h
    rw [resource, hd, ok_bind] at hr
    simp only [hne, if_false] at hr
    obtain ⟨client, -, hr⟩ := bind_eq_ok.mp hr
    obtain ⟨waiters, -, hr⟩ := bind_eq_ok.mp hr
    obtain ⟨type, -, hr⟩ := bind_eq_ok.mp hr
    obtain ⟨resource, -, hr⟩ := bind_eq_ok.mp hr
    cases hr
  · intro hempty
    refine stubs_of_undeclared hd (fun other ho => ?_) oracle limit
    obtain rfl := Option.some.inj ho
    exact hempty

/-- In whatever order a document declares its resource types, a run over it comes to the same. It
succeeds in both orders or in neither, and the class of the service resource is the same. Each
resource type has the same class, and the classes are in the order of the types: where the types
change places, their classes do. -/
theorem stubs_of_perm (session session' : Session) (service : ServiceName) (oracle : Oracle)
    (limit : Nat) {document document' : ResourceDocument}
    (hd : session.resourceDocument service.name = .ok (some document))
    (hd' : session'.resourceDocument service.name = .ok (some document'))
    (hmodel : session.serviceModel service.name = session'.serviceModel service.name)
    (hwaiters : session.waiterModel service.name = session'.waiterModel service.name)
    (hservice : document'.service = document.service)
    (hperm : document.resources.entries.Perm document'.resources.entries) :
    ((∃ result, session.stubs oracle service limit = .ok result) ↔
      ∃ result, session'.stubs oracle service limit = .ok result) ∧
    (session.stubs oracle service limit = .ok none ↔
      session'.stubs oracle service limit = .ok none) ∧
    ∀ root, session.stubs oracle service limit = .ok (some root) →
      ∃ root', session'.stubs oracle service limit = .ok (some root') ∧
        { root' with subResources := root.subResources } = root ∧
        (∃ classOf : String × ResourceDefinition → Resource,
          root.subResources = document.resources.entries.map classOf ∧
          root'.subResources = document'.resources.entries.map classOf) ∧
        ∀ place : Nat → Nat,
          (∀ i : Nat, document'.resources.entries[i]? = document.resources.entries[place i]?) →
          ∀ i : Nat, root'.subResources[i]? = root.subResources[place i]? := by
  have hnone : session.stubs oracle service limit = .ok none ↔
      session'.stubs oracle service limit = .ok none := by
    rw [isEmpty_iff_of_stubs hd, isEmpty_iff_of_stubs hd', isEmpty_of_perm hservice hperm]
  refine ⟨⟨?_, ?_⟩, hnone, fun root h => ?_⟩
  · rintro ⟨root | root, h⟩
    · exact ⟨none, hnone.mp h⟩
    · obtain ⟨_, h', -⟩ := exists_stubs_of_perm hd hd' hmodel hwaiters hservice hperm h
      exact ⟨_, h'⟩
  · rintro ⟨root | root, h⟩
    · exact ⟨none, hnone.mpr h⟩
    · obtain ⟨_, h', -⟩ := exists_stubs_of_perm hd' hd hmodel.symm hwaiters.symm hservice.symm
        hperm.symm h
      exact ⟨_, h'⟩
  · obtain ⟨classOf, h', hclasses⟩ :=
      exists_stubs_of_perm hd hd' hmodel hwaiters hservice hperm h
    refine ⟨_, h', rfl, ⟨classOf, hclasses, rfl⟩, fun place hplace i => ?_⟩
    rw [hclasses, List.getElem?_map, List.getElem?_map, hplace]

end Session

/-! ### A harbour the other way round -/

namespace Harbour

/-- The resource types of a harbour from the last to the first. -/
def turned : ResourceDocument :=
  ⟨none, .ofList [("Hook", .empty), ("Gantry", crane), ("Dock", dock)]⟩

def turnedStore : MemoryStore := ⟨.ofList [("harbour", ⟨model, some turned, none⟩)]⟩

/-- The places of the resource types before the turn. -/
def turn : Nat → Nat
  | 0 => 2
  | 1 => 1
  | 2 => 0
  | i => i

theorem getElem?_turned (i : Nat) :
    turned.resources.entries[i]? = (document "Gantry").resources.entries[turn i]? :=
  match i with
  | 0 | 1 | 2 | _ + 3 => rfl

end Harbour

namespace Session

/-- The dock changes its place with the hooks. -/
theorem stubs_of_perm_harbour : ∃ root root',
    (Harbour.store "Gantry").session.stubs (Harbour.source "Gantry").oracle Harbour.service 300 =
        .ok (some root) ∧
      Harbour.turnedStore.session.stubs (Harbour.source "Gantry").oracle Harbour.service 300 =
        .ok (some root') ∧
      root'.subResources[0]? = root.subResources[2]? ∧
      root'.subResources[2]? = root.subResources[0]? := by
  obtain ⟨root, h, -⟩ := Harbour.exists_stubs_gantry
  have hperm : (Harbour.document "Gantry").resources.entries.Perm
      Harbour.turned.resources.entries := (List.reverse_perm _).symm
  obtain ⟨-, -, hruns⟩ := stubs_of_perm (Harbour.store "Gantry").session Harbour.turnedStore.session
    Harbour.service (Harbour.source "Gantry").oracle 300 rfl rfl rfl rfl rfl hperm
  obtain ⟨root', h', -, -, hplaces⟩ := hruns root h
  have hturn := hplaces Harbour.turn Harbour.getElem?_turned
  exact ⟨root, root', h, h', hturn 0, hturn 2⟩

end Session

end ResourceStubs
