import ResourceStubs.Proofs.Assembly.CollectionElements

/-! The methods of a collection class under their names. Six methods are those of every manager, and
the batch actions of the resources stand among them in the same list, under their snake-cased names.
Several methods of one name are all kept, and the name finds the first of them. So all methods can
be found exactly if the batch actions can be told apart, from each other and from the six. -/

namespace ResourceStubs

open Fallible

namespace ResourceDefinition

variable (definition : ResourceDefinition)

/-- The names of the batch actions. -/
def batchNames : List String := definition.batchActions.keys.map Naming.snakeCase

/-- The batch actions can be told apart: none is called like another one or like a method that every
manager has. -/
structure BatchesApart : Prop where
  distinct : definition.batchNames.Nodup
  own : ∀ name ∈ definition.batchNames,
    name ∉ ["all", "filter", "limit", "page_size", "pages", "__iter__"]

theorem nodup_managerNames_iff : definition.managerNames.Nodup ↔ definition.BatchesApart := by
  let first := ["all", "filter"]
  let last := ["limit", "page_size", "pages", "__iter__"]
  -- the batch actions stand between the methods of every manager; moved to the front they are apart
  have hperm : definition.managerNames.Perm (definition.batchNames ++ (first ++ last)) := by
    change (first ++ definition.batchNames ++ last).Perm _
    rw [← List.append_assoc]
    exact List.perm_append_comm.append_right last
  have hown : (first ++ last).Nodup := by decide
  rw [hperm.nodup_iff, List.nodup_append]
  constructor
  · rintro ⟨hdistinct, -, hapart⟩
    exact ⟨hdistinct, fun name hname hmem => hapart name hname name hmem rfl⟩
  · rintro ⟨hdistinct, hapart⟩
    refine ⟨hdistinct, hown, ?_⟩
    rintro name hname _ hmem rfl
    exact hapart name hname hmem

end ResourceDefinition

namespace Collection

/-- A name finds the method that stands at the first place of the name. -/
theorem method?_eq_getElem? (collection : Collection) (called : String) :
    collection.method? called =
      collection.methods[(collection.methods.map (·.name)).idxOf called]? := by
  rw [method?, List.find?_eq_getElem?_findIdx, List.idxOf, List.findIdx_map]
  rfl

theorem method?_of_nodup {collection : Collection} (h : (collection.methods.map (·.name)).Nodup)
    {method : Method} (hm : method ∈ collection.methods) :
    collection.method? method.name = some method := by
  obtain ⟨i, hi, rfl⟩ := List.getElem_of_mem hm
  have hlength : i < (collection.methods.map (·.name)).length := by simpa using hi
  have hplace := h.idxOf_getElem i hlength
  rw [List.getElem_map] at hplace
  rw [method?_eq_getElem?, hplace, List.getElem?_eq_getElem hi]

end Collection

/-! ### A pantry -/

namespace Pantry

def model : ServiceModel where
  serviceName := "pantry"
  metadata := .empty
  operations := .ofList [
    ("ListJars", ⟨none, none, none, none⟩),
    ("EmptyJars", ⟨none, none, none, none⟩)]
  shapes := .empty
  documentation := none

/-- Jars are listed, and can be emptied by a batch action of the given name. -/
def document (batchName : String) : ResourceDocument where
  service := some { ResourceDefinition.empty with
    hasMany := .ofList [("Jars", ⟨some ⟨"ListJars", []⟩, some ⟨"Jar", [], none⟩, none⟩)] }
  resources := .ofList [("Jar", { ResourceDefinition.empty with
    batchActions := .ofList [(batchName, ⟨some ⟨"EmptyJars", []⟩, none, none⟩)] })]

def store (batchName : String) : MemoryStore :=
  ⟨.ofList [("pantry", ⟨model, some (document batchName), none⟩)]⟩

def service : ServiceName := .ofNames "pantry" "Pantry"

def source (batchName : String) : ShapeSource := ⟨"pantry", model, document batchName, none⟩

theorem ofSession_eq (batchName : String) :
    ShapeSource.ofSession (store batchName).session service = .ok (source batchName) := rfl

theorem batchesApart_empty (element : ResourceDefinition)
    (h : (document "Empty").resources.get? "Jar" = some element) : element.BatchesApart := by
  obtain rfl := Option.some.inj h
  exact ⟨by decide +kernel, by decide +kernel⟩

theorem exists_stubs_empty : ∃ root,
    (store "Empty").session.stubs (source "Empty").oracle service 300 = .ok (some root) ∧
      root.allCollections.map (·.elementName) = ["Jar"] :=
  exists_of_map_eq_ok (by decide +kernel)

/-- A batch action called All has the name of the method that lists all jars. -/
theorem exists_stubs_all : ∃ root,
    (store "All").session.stubs SignatureTable.empty.oracle service 300 = .ok (some root) ∧
      root.allCollections.map (·.methods.map (·.name)) =
        [["all", "filter", "all", "limit", "page_size", "pages", "__iter__"]] :=
  exists_of_map_eq_ok (by decide +kernel)

/-- Whatever the name finds, it does not find both. -/
theorem exists_stubs_all_found : ∃ root,
    (store "All").session.stubs (source "All").oracle service 300 = .ok (some root) ∧
      (root.allCollections.all fun collection => collection.methods.all fun method =>
        collection.method? method.name = some method) = false :=
  exists_of_map_eq_ok (by decide +kernel)

end Pantry

namespace Session

variable {session : Session} {service : ServiceName} {limit : Nat} {root : ServiceResource}

theorem declares_of_instantiate {context : ServiceContext} {declared : String × ResourceDefinition}
    {resource : ResourceInstance} (h : context.instantiate declared = .ok resource) :
    Declares context.document declared resource := by
  obtain ⟨schema, hschema, rfl⟩ := map_eq_ok.mp h
  exact declares_of_resolve hschema _

/-- Every collection class of a run is that of a declared collection. -/
theorem exists_manages_of_stubs {oracle : Oracle} (hkeyed : oracle.KeyedByName)
    (h : session.stubs oracle service limit = .ok (some root)) :
    ∃ document, session.resourceDocument service.name = .ok (some document) ∧
      ∀ collection ∈ root.allCollections, ∃ declared, collection.Manages document declared := by
  obtain ⟨context, body, classes, hhas, hname, hbody, -, hclasses, rfl⟩ := exists_steps_of_stubs h
  have hroot : context.document.root.ManagedBy context.document body.collections := by
    obtain ⟨resource, hr, hbody⟩ := bind_eq_ok.mp hbody
    obtain ⟨known, -, hbody⟩ := bind_eq_ok.mp hbody
    exact managedBy_of_body hkeyed (declares_of_instantiate hr) hbody
  have hothers : List.Forall₂ (fun declared stub =>
        declared.2.ManagedBy context.document stub.collections)
      context.document.resources.entries classes :=
    ServiceContext.forall₂_of_resourceClasses hclasses fun _ _ _ _ hr _ hbody =>
      managedBy_of_body hkeyed (declares_of_instantiate hr) hbody
  refine ⟨context.document, hname ▸ hhas.document, fun collection hcollection => ?_⟩
  rcases List.mem_append.mp hcollection with hmem | hmem
  · obtain ⟨declared, -, hmanages⟩ := exists_of_forall₂_of_mem hroot.flip hmem
    exact ⟨declared, hmanages⟩
  · obtain ⟨stub, hstub, hmem⟩ := List.mem_flatMap.mp hmem
    obtain ⟨type, -, hmanaged⟩ := exists_of_forall₂_of_mem hothers.flip hstub
    obtain ⟨declared, -, hmanages⟩ :=
      exists_of_forall₂_of_mem (List.Forall₂.flip hmanaged) hmem
    exact ⟨declared, hmanages⟩

/-- With a table of signatures, however it is filled, and with the oracle over the documents of the
service, a name finds in a collection class the method at the first place that the name has among
the methods of the manager. No two methods have one name, and so all are found, exactly if the batch
actions of the resource type can be told apart. -/
theorem collectionMethods_of_stubs (session : Session) (service : ServiceName) (limit : Nat)
    {oracle : Oracle}
    (horacle : (∃ table : SignatureTable, table.Filled ∧ oracle = table.oracle) ∨
      ∃ source, ShapeSource.ofSession session service = .ok source ∧ oracle = source.oracle)
    {root : ServiceResource} (h : session.stubs oracle service limit = .ok (some root)) :
    ∃ document, session.resourceDocument service.name = .ok (some document) ∧
      ∀ collection ∈ root.allCollections, ∃ element,
        document.resources.get? collection.elementName = some element ∧
        (∀ called, collection.method? called =
          collection.methods[element.managerNames.idxOf called]?) ∧
        ((collection.methods.map (·.name)).Nodup ↔ element.BatchesApart) ∧
        (element.BatchesApart → ∀ method ∈ collection.methods,
          collection.method? method.name = some method) := by
  have hkeyed : oracle.KeyedByName := by
    rcases horacle with ⟨table, hfilled, rfl⟩ | ⟨source, -, rfl⟩
    · exact SignatureTable.keyedByName_oracle hfilled
    · exact source.keyedByName_oracle
  obtain ⟨document, hdocument, hmanages⟩ := exists_manages_of_stubs hkeyed h
  refine ⟨document, hdocument, fun collection hcollection => ?_⟩
  obtain ⟨declared, hmanages⟩ := hmanages collection hcollection
  obtain ⟨element, helement, hnames⟩ := hmanages.methods
  have hnodup : (collection.methods.map (·.name)).Nodup ↔ element.BatchesApart := by
    rw [hnames, element.nodup_managerNames_iff]
  refine ⟨element, helement, fun called => ?_, hnodup, fun hapart method hmethod => ?_⟩
  · rw [← hnames, collection.method?_eq_getElem?]
  · exact Collection.method?_of_nodup (hnodup.mpr hapart) hmethod

/-- A batch action called Empty has a name of its own, and every method is found. -/
theorem collectionMethods_of_stubs_pantry : ∃ root,
    (Pantry.store "Empty").session.stubs (Pantry.source "Empty").oracle Pantry.service 300 =
        .ok (some root) ∧
      root.allCollections.map (·.elementName) = ["Jar"] ∧
      ∀ collection ∈ root.allCollections, (collection.methods.map (·.name)).Nodup ∧
        ∀ method ∈ collection.methods, collection.method? method.name = some method := by
  obtain ⟨root, hrun, helements⟩ := Pantry.exists_stubs_empty
  obtain ⟨document, hdocument, hmethods⟩ := collectionMethods_of_stubs _ _ _
    (.inr ⟨_, Pantry.ofSession_eq "Empty", rfl⟩) hrun
  obtain rfl : Pantry.document "Empty" = document := Option.some.inj (Except.ok.inj hdocument)
  refine ⟨root, hrun, helements, fun collection hcollection => ?_⟩
  obtain ⟨element, helement, -, hnodup, hfound⟩ := hmethods collection hcollection
  have hjar : collection.elementName = "Jar" := by
    have hmem := List.mem_map_of_mem (f := (·.elementName)) hcollection
    rw [helements] at hmem
    exact List.mem_singleton.mp hmem
  rw [hjar] at helement
  have hapart := Pantry.batchesApart_empty element helement
  exact ⟨hnodup.mpr hapart, hfound hapart⟩

/-- Neither do the methods always have names of their own, nor are they always found. A batch action
called All is hidden by the method that lists all jars. -/
theorem not_forall_methods_found :
    (¬∀ (session : Session) (service : ServiceName) (limit : Nat) (table : SignatureTable)
      (root : ServiceResource), table.Filled →
      session.stubs table.oracle service limit = .ok (some root) →
      ∀ collection ∈ root.allCollections, (collection.methods.map (·.name)).Nodup) ∧
    ¬∀ (session : Session) (service : ServiceName) (limit : Nat) (source : ShapeSource)
      (root : ServiceResource), ShapeSource.ofSession session service = .ok source →
      session.stubs source.oracle service limit = .ok (some root) →
      ∀ collection ∈ root.allCollections, ∀ method ∈ collection.methods,
        collection.method? method.name = some method := by
  refine ⟨fun h => ?_, fun h => ?_⟩
  · obtain ⟨root, hrun, hnames⟩ := Pantry.exists_stubs_all
    have hnodup := h _ _ _ _ _ .empty hrun
    have hmem := List.mem_singleton_self
      ["all", "filter", "all", "limit", "page_size", "pages", "__iter__"]
    rw [← hnames] at hmem
    obtain ⟨collection, hcollection, hown⟩ := List.mem_map.mp hmem
    have hdistinct := hnodup collection hcollection
    rw [hown] at hdistinct
    exact absurd hdistinct (by decide)
  · obtain ⟨root, hrun, hfound⟩ := Pantry.exists_stubs_all_found
    have hall := h _ _ _ _ _ (Pantry.ofSession_eq "All") hrun
    obtain ⟨collection, hcollection, hmissing⟩ := List.all_eq_false.mp hfound
    refine hmissing (List.all_eq_true.mpr fun method hmethod => ?_)
    exact decide_eq_true (hall collection hcollection method hmethod)

end Session

end ResourceStubs
