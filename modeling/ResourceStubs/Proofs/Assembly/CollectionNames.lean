import ResourceStubs.Proofs.Assembly.ResourceNames

/-! The names of collection classes. A collection class is called after its parent and the
camel-cased name of the collection, with nothing between them. So two collections may share the name
of their class, and it may be that of a resource type. It is told here exactly when neither happens.
The oracle over the shapes finds a collection by the name of its class alone: one that shares it
with no other collection and with no resource type is found. -/

namespace ResourceStubs

open Fallible

namespace ResourceDefinition

/-- The collections that lead to a resource type. Only these have classes. -/
def targetedCollections (definition : ResourceDefinition) : List (String × ActionDefinition) :=
  definition.hasMany.entries.filter (·.2.resource.isSome)

/-- The names of the collection classes, if the class of the definition has the name. -/
def collectionNames (definition : ResourceDefinition) (name : String) : List String :=
  definition.targetedCollections.map fun declared =>
    collectionClassName name (Naming.snakeCase declared.1)

end ResourceDefinition

/-- What a collection adds to the name of its parent. -/
def collectionPart (declaredName : String) : String :=
  Naming.classPrefix (Naming.snakeCase declaredName)

theorem collectionClassName_eq_iff {parentName otherName declaredName declaredName' : String} :
    collectionClassName parentName (Naming.snakeCase declaredName) =
        collectionClassName otherName (Naming.snakeCase declaredName') ↔
      parentName ++ collectionPart declaredName = otherName ++ collectionPart declaredName' := by
  have hname (parentName declaredName : String) :
      collectionClassName parentName (Naming.snakeCase declaredName) =
        parentName ++ collectionPart declaredName ++ "Collection" := rfl
  rw [hname, hname, String.append_left_inj]

namespace ResourceDocument

/-- The service resource and the other resource types with the names of their classes. The others
have the qualifier before theirs. -/
def parents (document : ResourceDocument) (qualifier : String) :
    List (String × ResourceDefinition) :=
  (Session.serviceResource, document.root) ::
    document.resources.entries.map fun declared => (qualifier ++ declared.1, declared.2)

/-- The names of all collection classes. -/
def collectionNames (document : ResourceDocument) (qualifier : String) : List String :=
  (document.parents qualifier).flatMap fun parent => parent.2.collectionNames parent.1

/-- No collection class has the name of another or of a resource type: the collections of a parent
add different parts to its name, those of two parents cannot make up for the difference of theirs,
and no resource type is called like a collection class. -/
structure Unambiguous (document : ResourceDocument) (qualifier : String) : Prop where
  within : ∀ parent ∈ document.parents qualifier,
    (parent.2.targetedCollections.map fun declared => collectionPart declared.1).Nodup
  between : (document.parents qualifier).Pairwise fun parent other =>
    ∀ declared ∈ parent.2.targetedCollections, ∀ declared' ∈ other.2.targetedCollections,
      parent.1 ++ collectionPart declared.1 ≠ other.1 ++ collectionPart declared'.1
  apart : ∀ parent ∈ document.parents qualifier, ∀ declared ∈ parent.2.targetedCollections,
    collectionClassName parent.1 (Naming.snakeCase declared.1) ∉
      document.resources.keys.map (qualifier ++ ·)

variable {document : ResourceDocument} {qualifier : String}

theorem nodup_collectionNames_iff (definition : ResourceDefinition) (name : String) :
    (definition.collectionNames name).Nodup ↔
      (definition.targetedCollections.map fun declared => collectionPart declared.1).Nodup := by
  simp only [ResourceDefinition.collectionNames, List.Nodup, List.pairwise_map, ne_eq,
    collectionClassName_eq_iff, String.append_right_inj]

/-- The names of two resource types are apart exactly if what their collections add does not make up
for the difference of their own names. -/
theorem disjoint_collectionNames_iff (parent other : String × ResourceDefinition) :
    (parent.2.collectionNames parent.1).Disjoint (other.2.collectionNames other.1) ↔
      ∀ declared ∈ parent.2.targetedCollections, ∀ declared' ∈ other.2.targetedCollections,
        parent.1 ++ collectionPart declared.1 ≠ other.1 ++ collectionPart declared'.1 := by
  rw [List.disjoint_iff_ne]
  simp only [ResourceDefinition.collectionNames, List.forall_mem_map, ne_eq,
    collectionClassName_eq_iff]

theorem unambiguous_iff :
    document.Unambiguous qualifier ↔ (document.collectionNames qualifier).Nodup ∧
      ∀ name ∈ document.collectionNames qualifier,
        name ∉ document.resources.keys.map (qualifier ++ ·) := by
  have hnodup : (document.collectionNames qualifier).Nodup ↔
      (∀ parent ∈ document.parents qualifier,
        (parent.2.targetedCollections.map fun declared => collectionPart declared.1).Nodup) ∧
      (document.parents qualifier).Pairwise fun parent other =>
        ∀ declared ∈ parent.2.targetedCollections, ∀ declared' ∈ other.2.targetedCollections,
          parent.1 ++ collectionPart declared.1 ≠ other.1 ++ collectionPart declared'.1 := by
    rw [collectionNames, List.nodup_flatMap]
    simp only [nodup_collectionNames_iff]
    exact and_congr_right fun _ => List.Pairwise.iff fun _ _ => disjoint_collectionNames_iff _ _
  have hapart : (∀ name ∈ document.collectionNames qualifier,
        name ∉ document.resources.keys.map (qualifier ++ ·)) ↔
      ∀ parent ∈ document.parents qualifier, ∀ declared ∈ parent.2.targetedCollections,
        collectionClassName parent.1 (Naming.snakeCase declared.1) ∉
          document.resources.keys.map (qualifier ++ ·) := by
    simp only [collectionNames, List.forall_mem_flatMap, ResourceDefinition.collectionNames,
      List.forall_mem_map]
  rw [hnodup, hapart]
  exact ⟨fun h => ⟨⟨h.within, h.between⟩, h.apart⟩, fun ⟨⟨hw, hb⟩, ha⟩ => ⟨hw, hb, ha⟩⟩

/-- Where no resource type has a name that another starts with, what collections add never makes up
for the difference. -/
theorem Unambiguous.of_prefixFree
    (hwithin : ∀ parent ∈ document.parents qualifier,
      (parent.2.targetedCollections.map fun declared => collectionPart declared.1).Nodup)
    (hfree : (document.parents qualifier).Pairwise fun parent other =>
      ¬parent.1.toList <+: other.1.toList ∧ ¬other.1.toList <+: parent.1.toList)
    (hapart : ∀ parent ∈ document.parents qualifier, ∀ declared ∈ parent.2.targetedCollections,
      collectionClassName parent.1 (Naming.snakeCase declared.1) ∉
        document.resources.keys.map (qualifier ++ ·)) :
    document.Unambiguous qualifier where
  within := hwithin
  between := by
    refine hfree.imp fun {parent other} ⟨hparent, hother⟩ declared _ declared' _ heq => ?_
    have hlist : parent.1.toList ++ (collectionPart declared.1).toList =
        other.1.toList ++ (collectionPart declared'.1).toList := by
      simpa using congrArg String.toList heq
    rcases List.prefix_or_prefix_of_prefix (List.prefix_append _ _)
      (hlist ▸ List.prefix_append parent.1.toList _) with h | h
    · exact hother h
    · exact hparent h
  apart := hapart

end ResourceDocument

/-! ### The collections of a run -/

namespace Schema

/-- A declared collection with a target was resolved: it has the snake-cased name, and the batch
actions of the resource type that it leads to. -/
structure Resolves (resources : Dict ResourceDefinition) (declared : String × ActionDefinition)
    (resolved : CollectionSchema × Target) : Prop where
  target : declared.2.resource = some resolved.2
  name : resolved.1.name = Naming.snakeCase declared.1
  batchActions : ∃ definition, resources.get? resolved.2.typeName = some definition ∧
    resolved.1.batchActions = definition.batchActions.entries.map batchActionOf

theorem batchActionsOf_eq_ok {resources : Dict ResourceDefinition}
    {declared : String × ActionDefinition} {target : Target}
    (htarget : declared.2.resource = some target) {batchActions : List BatchAction}
    (h : batchActionsOf resources declared = .ok batchActions) :
    ∃ definition, resources.get? target.typeName = some definition ∧
      batchActions = definition.batchActions.entries.map batchActionOf := by
  rw [batchActionsOf, htarget] at h
  dsimp only at h
  split at h
  next definition hdefinition => exact ⟨definition, hdefinition, (Except.ok.inj h).symm⟩
  next => cases h

/-- The collections of a schema are resolved one by one, and those with a target keep it. -/
theorem resolves_of_mapM {resources : Dict ResourceDefinition}
    {declared : List (String × ActionDefinition)} {collections : List CollectionSchema}
    (h : declared.mapM (collectionOf resources) = .ok collections) :
    List.Forall₂ (Resolves resources) (declared.filter (·.2.resource.isSome))
      (collections.filterMap fun collection => collection.target?.map (collection, ·)) := by
  have hresolved := mapM_eq_ok.mp h
  induction hresolved with
  | nil => exact .nil
  | @cons entry collection _ _ hc hrest ih =>
    obtain ⟨batchActions, hactions, hc⟩ := bind_eq_ok.mp hc
    obtain rfl := pure_eq_ok.mp hc
    specialize ih (mapM_eq_ok.mpr hrest)
    cases hr : entry.2.resource with
    | none =>
      rw [List.filterMap_cons_none (by simp [CollectionSchema.target?, hr]),
        List.filter_cons_of_neg (by simp [hr])]
      exact ih
    | some target =>
      rw [List.filterMap_cons_some (by rw [CollectionSchema.target?, hr, Option.map_some]),
        List.filter_cons_of_pos (by simp [hr])]
      exact .cons ⟨hr, rfl, batchActionsOf_eq_ok hr hactions⟩ ih

end Schema

theorem ServiceContext.names_of_instantiate {context : ServiceContext}
    {declared : String × ResourceDefinition} {resource : ResourceInstance}
    (h : context.instantiate declared = .ok resource) (name : String) :
    (resource.schema.targetedCollections.map fun entry => collectionClassName name entry.1.name) =
      declared.2.collectionNames name := by
  obtain ⟨schema, hs, rfl⟩ := map_eq_ok.mp h
  obtain ⟨collections, hc, rfl⟩ := Schema.resolve_eq_ok hs
  refine (map_eq_map_of_forall₂ ((Schema.resolves_of_mapM hc).imp fun _ _ hresolves => ?_)).symm
  rw [hresolves.name]

/-- The class of a resource type has the type's collections, under the names of their classes, and
the oracle has answered for each of them. -/
structure Resource.HasCollectionsOf (oracle : Oracle) (parent : String × ResourceDefinition)
    (stub : Resource) : Prop where
  name_eq : stub.name = parent.1
  names : stub.collections.map (·.name) = parent.2.collectionNames parent.1
  answered : ∀ asked ∈ parent.2.collectionNames parent.1,
    ∃ known, oracle.ask (some asked) = .ok known

namespace ServiceContext

variable {context : ServiceContext} {oracle : Oracle} {service : ServiceName} {limit : Nat}

theorem hasCollectionsOf_of_body {declared : String × ResourceDefinition}
    {resource : ResourceInstance} (hr : context.instantiate declared = .ok resource)
    {name stubName : String} {known : Dict Method} {stub : Resource}
    (h : resource.body oracle service limit name stubName known = .ok stub) :
    stub.HasCollectionsOf oracle (name, declared.2) := by
  obtain ⟨hname, -, hcollections⟩ := resource.parts_of_body h
  have hnames : List.Forall₂ (fun entry collection =>
        collectionClassName name entry.1.name = collection.name)
      resource.schema.targetedCollections stub.collections := by
    refine (mapM_eq_ok.mp hcollections).imp fun _ _ hc => ?_
    obtain ⟨-, -, hclass, -⟩ := names_of_collectionClass hc
    exact hclass.symm
  refine ⟨hname, ?_, fun asked ha => ?_⟩
  · rw [← names_of_instantiate hr name]
    exact (map_eq_map_of_forall₂ hnames).symm
  · rw [← names_of_instantiate hr name] at ha
    obtain ⟨entry, he, rfl⟩ := List.mem_map.mp ha
    obtain ⟨collection, -, hc⟩ := exists_mapM_of_mem hcollections he
    obtain ⟨-, -, hclass, hasked⟩ := names_of_collectionClass hc
    rwa [hclass] at hasked

/-- The classes of the other resource types have their collections, each under its own name. -/
theorem hasCollectionsOf_of_resourceClasses {stubs : List Resource}
    (h : context.resourceClasses oracle service limit = .ok stubs) :
    List.Forall₂ (fun declared stub => stub.HasCollectionsOf oracle
        (keptQualifier context.serviceName ++ declared.1, declared.2))
      context.document.resources.entries stubs := by
  refine forall₂_of_resourceClasses h fun declared resource known stub hr _ hbody => ?_
  rw [nameInService_of_instantiate hr] at hbody
  exact hasCollectionsOf_of_body hr hbody

end ServiceContext

/-- All classes of a run have the collections of their resource types, the service resource
first. -/
theorem Session.hasCollectionsOf_of_stubs {session : Session} {service : ServiceName}
    {oracle : Oracle} {limit : Nat} {root : ServiceResource}
    (h : session.stubs oracle service limit = .ok (some root)) :
    ∃ document body, session.resourceDocument service.name = .ok (some document) ∧
      root.collections = body.collections ∧
      List.Forall₂ (fun parent stub => stub.HasCollectionsOf oracle parent)
        (document.parents (keptQualifier service.name)) (body :: root.subResources) := by
  obtain ⟨context, body, classes, hhas, hname, hbody, -, hclasses, rfl⟩ := exists_steps_of_stubs h
  obtain ⟨resource, hr, hbody⟩ := bind_eq_ok.mp hbody
  obtain ⟨known, -, hbody⟩ := bind_eq_ok.mp hbody
  have hroot := ServiceContext.hasCollectionsOf_of_body hr hbody
  have hothers := ServiceContext.hasCollectionsOf_of_resourceClasses hclasses
  rw [hname] at hothers
  exact ⟨context.document, body, hname ▸ hhas.document, rfl,
    .cons hroot (List.forall₂_map_left_iff.mpr hothers)⟩

/-! ### The oracle over the shapes -/

namespace ShapeSource

variable (source : ShapeSource)

/-- A resource type with collections, under its own name, is one that the oracle knows. -/
theorem mem_definitions {parent : String × ResourceDefinition}
    (hparent : parent ∈ source.document.parents "") {declared : String × ActionDefinition}
    (hd : declared ∈ parent.2.hasMany.entries) : parent ∈ source.definitions := by
  rcases List.mem_cons.mp hparent with rfl | hparent
  · refine List.mem_append_left _ (List.mem_map.mpr ?_)
    change declared ∈ (source.document.service.getD .empty).hasMany.entries at hd
    cases hs : source.document.service with
    | none =>
      rw [hs] at hd
      exact (List.not_mem_nil hd).elim
    | some definition => exact ⟨definition, by simp, by rw [ResourceDocument.root, hs]; rfl⟩
  · refine List.mem_append_right _ ?_
    simpa only [String.empty_append, Prod.mk.eta, List.map_id'] using hparent

/-- A collection whose class has a name of its own is found under it. -/
theorem methodsOf_collectionClassName {parent : String × ResourceDefinition}
    (hparent : parent ∈ source.document.parents "") {declared : String × ActionDefinition}
    (hd : declared ∈ parent.2.hasMany.entries) {className : String}
    (hname : className = collectionClassName parent.1 (Naming.snakeCase declared.1))
    (htype : className ∉ source.document.resources.keys)
    (hown : ∀ entry ∈ source.collectionClasses, entry.1 = className → entry.2 = declared.2) :
    source.methodsOf className = source.collectionMethods className declared.2 := by
  have hmem : (className, declared.2) ∈ source.collectionClasses := by
    subst hname
    exact List.mem_flatMap.mpr
      ⟨parent, source.mem_definitions hparent hd, List.mem_map.mpr ⟨declared, hd, rfl⟩⟩
  have hsome : (source.collectionClasses.find? (·.1 == className)).isSome :=
    List.find?_isSome.mpr ⟨_, hmem, beq_self_eq_true className⟩
  obtain ⟨entry, hfound⟩ := Option.isSome_iff_exists.mp hsome
  have hentry : entry.1 = className := by simpa using List.find?_some hfound
  obtain rfl : entry = (className, declared.2) :=
    Prod.ext hentry (hown entry (List.mem_of_find?_eq_some hfound) hentry)
  rw [methodsOf, Dict.get?_eq_none_iff.mpr htype, hfound]

/-- The documents of a source are those of its session. -/
theorem document_of_ofSession {session : Session} {service : ServiceName} {source : ShapeSource}
    (h : ofSession session service = .ok source) {document : ResourceDocument}
    (hd : session.resourceDocument service.name = .ok (some document)) :
    source.document = document := by
  obtain ⟨model, -, h⟩ := bind_eq_ok.mp h
  obtain ⟨document', hd', h⟩ := bind_eq_ok.mp h
  obtain ⟨waiters, -, h⟩ := bind_eq_ok.mp h
  obtain rfl := pure_eq_ok.mp h
  obtain rfl := Except.ok.inj (hd.symm.trans hd')
  rfl

end ShapeSource

/-! ### A harbour -/

namespace Harbour

/-- Hooks are listed by crane or by berth. -/
def model : ServiceModel where
  serviceName := "harbour"
  metadata := .empty
  operations := .ofList [
    ("ListCraneHooks", ⟨none, some ⟨"CraneInput", none⟩, none, none⟩),
    ("ListHooks", ⟨none, some ⟨"BerthInput", none⟩, none, none⟩)]
  shapes := .ofList [
    ("CraneInput", .record (.ofList [("Crane", ⟨"Text", none⟩)]) []),
    ("BerthInput", .record (.ofList [("Berth", ⟨"Text", none⟩)]) []),
    ("Text", .string none)]
  documentation := none

/-- A collection of hooks, by the operation that lists them. -/
def hooks (operation : String) : ActionDefinition :=
  ⟨some ⟨operation, []⟩, some ⟨"Hook", [], none⟩, none⟩

def dock : ResourceDefinition :=
  { ResourceDefinition.empty with hasMany := .ofList [("CraneHooks", hooks "ListCraneHooks")] }

def crane : ResourceDefinition :=
  { ResourceDefinition.empty with hasMany := .ofList [("Hooks", hooks "ListHooks")] }

/-- A dock has the hooks of its cranes. A crane has hooks, too, whatever it is called. -/
def document (craneName : String) : ResourceDocument :=
  ⟨none, .ofList [("Dock", dock), (craneName, crane), ("Hook", .empty)]⟩

def store (craneName : String) : MemoryStore :=
  ⟨.ofList [("harbour", ⟨model, some (document craneName), none⟩)]⟩

def service : ServiceName := .ofNames "harbour" "Harbour"

def source (craneName : String) : ShapeSource := ⟨"harbour", model, document craneName, none⟩

theorem ofSession_eq (craneName : String) :
    ShapeSource.ofSession (store craneName).session service = .ok (source craneName) := rfl

theorem exists_stubs_gantry : ∃ root,
    (store "Gantry").session.stubs (source "Gantry").oracle service 300 = .ok (some root) ∧
      root.allCollections.map (·.name) = ["DockCraneHooksCollection", "GantryHooksCollection"] :=
  exists_of_map_eq_ok (by decide +kernel)

theorem exists_stubs_dockCrane : ∃ root,
    (store "DockCrane").session.stubs (source "DockCrane").oracle service 300 = .ok (some root) ∧
      root.allCollections.map (·.name) =
        ["DockCraneHooksCollection", "DockCraneHooksCollection"] :=
  exists_of_map_eq_ok (by decide +kernel)

theorem unambiguous_gantry : (document "Gantry").Unambiguous "" :=
  .of_prefixFree (by decide +kernel) (by decide +kernel) (by decide +kernel)

theorem eq_of_collectionClasses_gantry {entry : String × ActionDefinition}
    (h : entry ∈ (source "Gantry").collectionClasses)
    (hname : entry.1 = collectionClassName "Gantry" (Naming.snakeCase "Hooks")) :
    entry.2 = hooks "ListHooks" := by
  have hclasses : (source "Gantry").collectionClasses =
      [(collectionClassName "Dock" (Naming.snakeCase "CraneHooks"), hooks "ListCraneHooks"),
        (collectionClassName "Gantry" (Naming.snakeCase "Hooks"), hooks "ListHooks")] := rfl
  rw [hclasses] at h
  rcases List.mem_pair.mp h with rfl | rfl
  · exact absurd hname (by decide +kernel)
  · rfl

/-- What the oracle knows of the hooks of a dock crane is filtered as those of a dock. -/
theorem methodsOf_ne_dockCrane :
    (source "DockCrane").methodsOf (collectionClassName "DockCrane" (Naming.snakeCase "Hooks")) ≠
      (source "DockCrane").collectionMethods
        (collectionClassName "DockCrane" (Naming.snakeCase "Hooks")) (hooks "ListHooks") := by
  intro h
  exact absurd (congrArg (Except.map (Dict.get? · "filter")) h) (by decide +kernel)

end Harbour

namespace Session

/-- The collection classes of a run with signatures from the shapes of the service. Their names are
distinct, and none is that of a resource class, exactly if the document is unambiguous. A collection
of a resource type that is called by its own name has the methods of its own request and of its own
resource type, unless a resource type or some other collection has the name of its class. -/
theorem collectionClasses_of_stubs (session : Session) (service : ServiceName) (limit : Nat)
    {source : ShapeSource} {root : ServiceResource}
    (hsource : ShapeSource.ofSession session service = .ok source)
    (h : session.stubs source.oracle service limit = .ok (some root)) :
    let qualifier := keptQualifier service.name
    let names := root.allCollections.map (·.name)
    names = source.document.collectionNames qualifier ∧
    ((names.Nodup ∧ ∀ name ∈ names, name ∉ root.subResources.map (·.name)) ↔
      source.document.Unambiguous qualifier) ∧
    ∀ parent ∈ source.document.parents qualifier, parent ∈ source.document.parents "" →
      ∀ declared ∈ parent.2.targetedCollections,
        let className := collectionClassName parent.1 (Naming.snakeCase declared.1)
        className ∉ source.document.resources.keys →
        (∀ entry ∈ source.collectionClasses, entry.1 = className → entry.2 = declared.2) →
        ∃ methods, source.oracle.ask (some className) = .ok methods ∧
          source.collectionMethods className declared.2 = .ok methods := by
  intro qualifier names
  obtain ⟨document, body, hd, hcollections, hparents⟩ := hasCollectionsOf_of_stubs h
  obtain rfl := ShapeSource.document_of_ofSession hsource hd
  have hnames : names = source.document.collectionNames qualifier := by
    have hall := map_eq_map_of_forall₂ (hparents.imp fun _ _ hp => hp.names.symm)
    have hflat := congrArg List.flatten hall
    rw [← List.flatMap_def, List.map_cons, List.flatten_cons, ← List.flatMap_def] at hflat
    change (root.collections ++ root.subResources.flatMap (·.collections)).map (·.name) = _
    rw [List.map_append, List.map_flatMap, hcollections]
    exact hflat.symm
  have htypes : root.subResources.map (·.name) =
      source.document.resources.keys.map (qualifier ++ ·) := by
    have hall := map_eq_map_of_forall₂ (hparents.imp fun _ _ hp => hp.name_eq.symm)
    rw [ResourceDocument.parents, List.map_cons, List.map_cons, List.map_map] at hall
    rw [Dict.keys, List.map_map]
    exact (List.cons.inj hall).2.symm
  refine ⟨hnames, ?_, ?_⟩
  · rw [ResourceDocument.unambiguous_iff, hnames, htypes]
  · intro parent hparent hown declared hdeclared className htype hentry
    have hmany := (List.mem_filter.mp hdeclared).1
    have hasked : className ∈ parent.2.collectionNames parent.1 :=
      List.mem_map.mpr ⟨declared, hdeclared, rfl⟩
    obtain ⟨stub, -, hstub⟩ := exists_of_forall₂_of_mem hparents hparent
    obtain ⟨methods, hmethods⟩ := hstub.answered className hasked
    refine ⟨methods, hmethods, ?_⟩
    rw [← source.methodsOf_collectionClassName hown hmany rfl htype hentry]
    exact hmethods

theorem collectionClasses_of_stubs_gantry : ∃ root,
    (Harbour.store "Gantry").session.stubs (Harbour.source "Gantry").oracle Harbour.service 300 =
        .ok (some root) ∧
      ((root.allCollections.map (·.name)).Nodup ∧ ∀ name ∈ root.allCollections.map (·.name),
        name ∉ root.subResources.map (·.name)) ∧
      ∃ methods, (Harbour.source "Gantry").oracle.ask
          (some (collectionClassName "Gantry" (Naming.snakeCase "Hooks"))) = .ok methods ∧
        (Harbour.source "Gantry").collectionMethods
          (collectionClassName "Gantry" (Naming.snakeCase "Hooks")) (Harbour.hooks "ListHooks") =
            .ok methods := by
  obtain ⟨root, h, -⟩ := Harbour.exists_stubs_gantry
  have hqualifier : keptQualifier Harbour.service.name = "" :=
    keptQualifier_eq_empty_iff.mpr (by decide)
  obtain ⟨-, hunambiguous, hown⟩ :=
    collectionClasses_of_stubs _ Harbour.service 300 (Harbour.ofSession_eq "Gantry") h
  rw [hqualifier] at hunambiguous hown
  have hparent : ("Gantry", Harbour.crane) ∈ (Harbour.source "Gantry").document.parents "" :=
    .tail _ (.tail _ (.head _))
  refine ⟨root, h, hunambiguous.mpr Harbour.unambiguous_gantry, ?_⟩
  exact hown _ hparent hparent ("Hooks", Harbour.hooks "ListHooks") (.head _) (by decide +kernel)
    fun _ => Harbour.eq_of_collectionClasses_gantry

/-- Neither are collection classes unambiguous, nor do they have methods of their own: the hooks of
the cranes of a dock and the hooks of a dock crane have one class. -/
theorem not_forall_collectionClasses :
    (¬∀ (session : Session) (service : ServiceName) (limit : Nat) (source : ShapeSource)
      (root : ServiceResource), ShapeSource.ofSession session service = .ok source →
      session.stubs source.oracle service limit = .ok (some root) →
      (root.allCollections.map (·.name)).Nodup) ∧
    ¬∀ (session : Session) (service : ServiceName) (limit : Nat) (source : ShapeSource)
      (root : ServiceResource), ShapeSource.ofSession session service = .ok source →
      session.stubs source.oracle service limit = .ok (some root) →
      ∀ parent ∈ source.definitions, ∀ declared ∈ parent.2.targetedCollections,
        let className := collectionClassName parent.1 (Naming.snakeCase declared.1)
        source.oracle.ask (some className) = source.collectionMethods className declared.2 := by
  obtain ⟨root, hrun, hnames⟩ := Harbour.exists_stubs_dockCrane
  have hsource := Harbour.ofSession_eq "DockCrane"
  refine ⟨fun h => ?_, fun h => ?_⟩
  · have hnodup := h _ _ _ _ _ hsource hrun
    rw [hnames] at hnodup
    exact absurd hnodup (by decide)
  · have hcrane : ("DockCrane", Harbour.crane) ∈ (Harbour.source "DockCrane").definitions :=
      .tail _ (.head _)
    exact Harbour.methodsOf_ne_dockCrane
      (h _ _ _ _ _ hsource hrun _ hcrane ("Hooks", Harbour.hooks "ListHooks") (.head _))

end Session

end ResourceStubs
