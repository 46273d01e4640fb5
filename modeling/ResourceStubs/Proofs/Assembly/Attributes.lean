import Mathlib.Logic.Basic
import ResourceStubs.Proofs.Assembly.Success

/-! The attributes of a resource class. They stand in four blocks, one behind the other: those of
the data, of the identifiers, of the references and of the collections. Each block follows the order
in which its attributes are declared, and keeps several of one name. Only data that has the name of
an identifier is left out. A related resource is referred to by an attribute if an identifier of it
is found in the data, and else it can be called: it is never both, and never neither. -/

namespace ResourceStubs

open Fallible

/-! ### What the attributes stand for -/

/-- An identifier of the target is found in the data of the resource that leads to it. -/
def Target.ReadsData (target : Target) : Prop :=
  ∃ identifier ∈ target.identifiers, identifier.source = "data"

instance (target : Target) : Decidable target.ReadsData :=
  inferInstanceAs (Decidable (∃ identifier ∈ target.identifiers, _))

/-- The path of the target leads through a list. -/
def Target.LeadsToSeveral (target : Target) : Prop :=
  ∃ path, target.path = some path ∧ ['[', ']'] <:+: path.toList

namespace ResourceDefinition

/-- The names of the identifiers. -/
def identifierNames (definition : ResourceDefinition) : List String :=
  definition.identifiers.map (Naming.snakeCase ·.name)

/-- The related resources that are found through the data. -/
def referred (definition : ResourceDefinition) : List (String × Target) :=
  definition.has.entries.filter (·.2.ReadsData)

/-- The members of the shape that the definition declares. The shape is a structure; where none is
declared there are no members. -/
inductive HasMembers (definition : ResourceDefinition) (model : ServiceModel) :
    List (String × ShapeRef) → Prop
  | undeclared : definition.shape = none → HasMembers definition model []
  | declared {shape : String} {members : Dict ShapeRef} {required : List String} :
    definition.shape = some shape → model.shapes.get? shape = some (.record members required) →
    HasMembers definition model members.entries

end ResourceDefinition

/-- The attribute shows the member: it has the snake-cased name and the hint of the shape. -/
structure Attribute.Shows (model : ServiceModel) (member : String × ShapeRef) (shown : Attribute) :
    Prop where
  name : shown.name = Naming.snakeCase member.1
  hint : model.hint member.2.shape = .ok shown.hint

/-- The attribute refers to the related resource, or to a list of such resources exactly if the path
leads to several. -/
structure Attribute.RefersTo (serviceName : String) (related : String × Target)
    (reference : Attribute) : Prop where
  name : reference.name = Naming.snakeCase related.1
  several : reference.hint = .list (.reference related.2.typeName serviceName true) ↔
    related.2.LeadsToSeveral
  one : reference.hint = .reference related.2.typeName serviceName true ↔
    ¬related.2.LeadsToSeveral

/-- The attributes of a class are those of its data, its identifiers, its references and its
collections, in blocks. The data has an attribute for each member that does not have the name of an
identifier, so that these two blocks have no name in common. -/
structure Resource.InBlocks (definition : ResourceDefinition) (resource : ResourceInstance)
    (service : ServiceName) (stub : Resource)
    (ofData ofIdentifiers ofReferences ofCollections : List Attribute) : Prop where
  attributes : stub.attributes = ofData ++ ofIdentifiers ++ ofReferences ++ ofCollections
  data : ∃ members, definition.HasMembers resource.client.model members ∧
    List.Forall₂ (Attribute.Shows resource.client.model)
      (members.filter fun member => Naming.snakeCase member.1 ∉ definition.identifierNames) ofData
  identifiers : ofIdentifiers = definition.identifierNames.map fun name => ⟨name, .str⟩
  references : List.Forall₂ (Attribute.RefersTo resource.serviceName) definition.referred
    ofReferences
  collections : ofCollections = stub.collections.map fun collection =>
    ⟨collection.attributeName, .reference collection.name service.name false⟩
  apart : (ofData.map (·.name)).Disjoint (ofIdentifiers.map (·.name))

/-- The declaration of the related resource that is called. -/
def Callable.related? : Callable → Option (String × Target)
  | .subResource name target => some (name, target)
  | _ => none

/-- The related resources that can be called, as they are declared. -/
def Schema.relatedCallables (schema : Schema) : List (String × Target) :=
  schema.callables.filterMap (·.related?)

/-- Every related resource is accounted for once: those that are not referred to are those that can
be called, in the order of their declaration. -/
structure ResourceDefinition.RelatedOnce (definition : ResourceDefinition) (schema : Schema) :
    Prop where
  called : schema.relatedCallables = definition.has.entries.filter (¬·.2.ReadsData)
  all : (definition.referred ++ schema.relatedCallables).Perm definition.has.entries
  once : ∀ related ∈ definition.has.entries,
    Xor (related ∈ definition.referred) (related ∈ schema.relatedCallables)

/-! ### Related resources -/

namespace Target

variable {target : Target}

theorem requiresData_eq_decide (target : Target) :
    target.requiresData = decide target.ReadsData := by
  rw [Bool.eq_iff_iff, decide_eq_true_iff]
  simp [requiresData, ReadsData, Binding.isData]

theorem isList_iff : target.isList = true ↔ target.LeadsToSeveral := by
  rw [isList, Option.any_eq_true]
  simp only [Text.isSome_splitOnce?_iff, LeadsToSeveral]

end Target

/-- The attribute of a related resource has a list for its hint exactly if the path leads to several
resources. -/
theorem Attribute.refersTo_of_hint (serviceName : String) (related : String × Target) :
    RefersTo serviceName related
      ⟨Naming.snakeCase related.1, related.2.hint serviceName⟩ := by
  by_cases several : related.2.LeadsToSeveral
  · have hint : related.2.hint serviceName =
        .list (.reference related.2.typeName serviceName true) := by
      rw [Target.hint, Target.isList_iff.mpr several]
      rfl
    exact ⟨rfl, iff_of_true hint several, by simp [hint, several]⟩
  · have hint : related.2.hint serviceName = .reference related.2.typeName serviceName true := by
      rw [Target.hint, Bool.eq_false_iff.mpr (mt Target.isList_iff.mp several)]
      rfl
    exact ⟨rfl, by simp [hint, several], iff_of_true hint several⟩

namespace Schema

variable {name : String} {definition : ResourceDefinition} {resources : Dict ResourceDefinition}
  {schema : Schema}

theorem relatedCallables_of_resolve (h : resolve name definition resources = .ok schema) :
    schema.relatedCallables = definition.has.entries.filter (¬·.2.ReadsData) := by
  obtain ⟨collections, -, rfl⟩ := resolve_eq_ok h
  let schema : Schema := { outline name definition with collections }
  -- of the five kinds of callables only one comes from related resources
  have hactions : schema.actions.filterMap (·.related?) = [] := by
    simp [schema, outline, actionOf, Callable.related?]
  have hwaiters : schema.waiters.filterMap (·.related?) = [] := by
    simp [schema, outline, waiterOf, Callable.related?]
  have hsubResources : schema.subResources.filterMap (·.related?) =
      definition.has.entries.filter (¬·.2.ReadsData) := by
    simp [schema, outline, List.filterMap_map, Callable.related?, Target.requiresData_eq_decide]
  have hloads : schema.loads.filterMap (·.related?) = [] := by
    rw [loads]
    cases schema.load <;> rfl
  change schema.relatedCallables = _
  rw [relatedCallables, callables, List.filterMap_append, declaredCallables]
  simp only [List.filterMap_append, hactions, hwaiters, hsubResources, hloads]
  split <;> simp [Callable.related?]

theorem relatedOnce_of_resolve (h : resolve name definition resources = .ok schema) :
    definition.RelatedOnce schema := by
  have hcalled := relatedCallables_of_resolve h
  refine ⟨hcalled, ?_, fun related hrelated => ?_⟩
  · have hperm := List.filter_append_perm
      (fun related : String × Target => decide related.2.ReadsData) definition.has.entries
    rw [hcalled]
    simpa [ResourceDefinition.referred] using hperm
  · rw [hcalled, ResourceDefinition.referred, List.mem_filter, List.mem_filter]
    by_cases hdata : related.2.ReadsData <;> simp [Xor, hrelated, hdata]

end Schema

/-! ### The blocks -/

namespace ResourceInstance

variable {resource : ResourceInstance} {typeName : String} {definition : ResourceDefinition}
  {resources : Dict ResourceDefinition}

/-- The attributes of a class are the four lists in a row. -/
theorem attributes_of_body {oracle : Oracle} {service : ServiceName} {limit : Nat}
    {name stubName : String} {known : Dict Method} {stub : Resource}
    (h : resource.body oracle service limit name stubName known = .ok stub) :
    ∃ data, resource.dataAttributes = .ok data ∧
      stub.attributes = data ++ resource.identifierAttributes ++ resource.referenceAttributes ++
        stub.collections.map (collectionAttribute service) := by
  obtain ⟨methods, -, h⟩ := bind_eq_ok.mp h
  obtain ⟨data, hdata, h⟩ := bind_eq_ok.mp h
  obtain ⟨collections, -, h⟩ := bind_eq_ok.mp h
  obtain rfl := pure_eq_ok.mp h
  exact ⟨data, hdata, rfl⟩

section

variable (hschema : Schema.resolve typeName definition resources = .ok resource.schema)
include hschema

theorem names_of_identifiers :
    resource.schema.identifiers.map (·.name) = definition.identifierNames := by
  obtain ⟨collections, -, h⟩ := Schema.resolve_eq_ok hschema
  rw [h]
  exact List.map_map

theorem isIdentifier_eq_decide (called : String) :
    resource.isIdentifier called = decide (called ∈ definition.identifierNames) := by
  rw [← names_of_identifiers hschema, Bool.eq_iff_iff]
  simp [isIdentifier]

/-- The data is shown member by member. -/
theorem shows_of_dataAttributes {data : List Attribute} (h : resource.dataAttributes = .ok data) :
    ∃ members, definition.HasMembers resource.client.model members ∧
      List.Forall₂ (Attribute.Shows resource.client.model)
        (members.filter fun member => Naming.snakeCase member.1 ∉ definition.identifierNames)
        data := by
  have hshape : resource.schema.shape = definition.shape := by
    obtain ⟨collections, -, h⟩ := Schema.resolve_eq_ok hschema
    rw [h]
    rfl
  rw [dataAttributes, hshape] at h
  cases hs : definition.shape with
  | none =>
    rw [hs] at h
    obtain rfl := Except.ok.inj h
    exact ⟨[], .undeclared hs, .nil⟩
  | some shape =>
    rw [hs] at h
    obtain ⟨members, hmembers, h⟩ := bind_eq_ok.mp h
    have hrecord := resource.client.model.members_decides shape
    rw [hmembers] at hrecord
    obtain ⟨declared, required, hrecord⟩ := hrecord
    obtain rfl := Except.ok.inj ((ServiceModel.members_eq_ok hrecord).symm.trans hmembers)
    refine ⟨declared.entries, .declared hs hrecord, ?_⟩
    rw [mapM_eq_ok, List.filter_map, List.forall₂_map_left_iff] at h
    simp only [Function.comp_def, isIdentifier_eq_decide hschema, ← decide_not] at h
    refine h.imp fun member shown hshown => ?_
    obtain ⟨hint, hhint, hshown⟩ := bind_eq_ok.mp hshown
    obtain rfl := pure_eq_ok.mp hshown
    exact ⟨rfl, hhint⟩

theorem identifierAttributes_eq :
    resource.identifierAttributes = definition.identifierNames.map fun name => ⟨name, .str⟩ := by
  rw [← names_of_identifiers hschema, List.map_map]
  rfl

theorem refersTo_referenceAttributes :
    List.Forall₂ (Attribute.RefersTo resource.serviceName) definition.referred
      resource.referenceAttributes := by
  have hreferences : resource.schema.references =
      definition.referred.map fun related => ⟨Naming.snakeCase related.1, related.2⟩ := by
    obtain ⟨collections, -, h⟩ := Schema.resolve_eq_ok hschema
    rw [h, ResourceDefinition.referred]
    simp only [Schema.outline, Target.requiresData_eq_decide]
  rw [referenceAttributes, hreferences, List.map_map, List.forall₂_map_right_iff]
  exact List.forall₂_same.mpr fun related _ => Attribute.refersTo_of_hint _ related

/-- Whatever the class is called and whatever is known of it, its attributes stand in their
blocks. -/
theorem inBlocks_of_body {oracle : Oracle} {service : ServiceName} {limit : Nat}
    {name stubName : String} {known : Dict Method} {stub : Resource}
    (h : resource.body oracle service limit name stubName known = .ok stub) :
    ∃ ofData ofIdentifiers ofReferences ofCollections,
      stub.InBlocks definition resource service ofData ofIdentifiers ofReferences
        ofCollections := by
  obtain ⟨data, hdata, hattributes⟩ := attributes_of_body h
  obtain ⟨members, hmembers, hshows⟩ := shows_of_dataAttributes hschema hdata
  refine ⟨data, _, _, _, hattributes, ⟨members, hmembers, hshows⟩, identifierAttributes_eq hschema,
    refersTo_referenceAttributes hschema, rfl, ?_⟩
  rw [identifierAttributes_eq hschema, List.map_map]
  intro called hleft hright
  obtain ⟨shown, hshown, rfl⟩ := List.mem_map.mp hleft
  obtain ⟨member, hmember, hshows⟩ := exists_of_forall₂_of_mem hshows.flip hshown
  have hidentifier : Naming.snakeCase member.1 ∈ definition.identifierNames := by
    simpa [Function.comp_def, hshows.name] using hright
  simpa [hidentifier] using (List.mem_filter.mp hmember).2

end

/-- The schema of a resource is that of its definition. -/
theorem resolve_of_ofValues {context : ServiceContext} {type : ResourceClass} {values : List String}
    {client : Client}
    (htype : ResourceClass.ofDefinition typeName definition context = .ok type)
    (hresource : ofValues type values client = .ok resource) :
    Schema.resolve typeName definition context.document.resources = .ok resource.schema := by
  obtain ⟨schema, hschema, htype⟩ := bind_eq_ok.mp htype
  obtain rfl := pure_eq_ok.mp htype
  rw [ofValues] at hresource
  split at hresource
  · obtain rfl := Except.ok.inj hresource
    exact hschema
  · cases hresource

end ResourceInstance

/-! ### A library -/

namespace Library

/-- The identifier of a book is declared in two spellings. The shelf and the authors of a book are
found in its data. -/
def book : ResourceDefinition :=
  { ResourceDefinition.empty with
    identifiers := [⟨"BookId", none⟩, ⟨"book_id", none⟩]
    shape := some "Book"
    has := .ofList [
      ("Shelf", ⟨"Shelf", [⟨"Name", "data", none, some "ShelfName", none⟩], none⟩),
      ("Reader", ⟨"Reader", [⟨"Name", "input", none, none, none⟩], none⟩),
      ("Author", ⟨"Author", [⟨"Name", "data", none, some "Authors[].Name", none⟩],
        some "Authors[]"⟩),
      ("Catalogue", ⟨"Catalogue", [], some "Catalogues[]"⟩)]
    hasMany := .ofList [("Loans", ⟨none, some ⟨"Loan", [], none⟩, none⟩)] }

/-- The data of a book has its identifier in a third spelling, and two members of one name. -/
def model : ServiceModel where
  serviceName := "library"
  metadata := .empty
  operations := .empty
  shapes := .ofList [
    ("Book", .record (.ofList [("bookId", ⟨"Text", none⟩), ("ShelfName", ⟨"Text", none⟩),
      ("Title", ⟨"Text", none⟩), ("title", ⟨"Texts", none⟩)]) []),
    ("Texts", .list ⟨"Text", none⟩),
    ("Text", .string none)]
  documentation := none

def context : ServiceContext :=
  ⟨"library", ⟨none, .ofList [("Book", book), ("Loan", .empty)]⟩, model, none⟩

def service : ServiceName := .ofNames "library" "Library"

def resource : ResourceInstance :=
  context.instanceOf "Book" { Schema.outline "Book" book with
    collections := [⟨Naming.snakeCase "Loans", ⟨none, some ⟨"Loan", [], none⟩, none⟩, []⟩] }

/-- No action of a book calls an operation, so all its methods are made. -/
theorem exists_methods : ∃ methods,
    resource.methods service 300 "Book" "Book" Dict.empty = .ok methods := by
  have hserved : book.ActionsServed model :=
    .of_forall_actions fun _ hd => (List.not_mem_nil hd).elim
  refine (resource.methods_decides service 300 "Book" "Book" keyedByName_empty).exists_ok
    fun entry hentry => ?_
  exact hserved entry.1 entry.2
    (Dict.get?_eq_some_iff.mpr ((Schema.mem_sortedCallables resource.schema).mp hentry))

theorem exists_stub : ∃ stub,
    resource.toStub SignatureTable.empty.oracle service 300 "Book" = .ok stub ∧
      stub.attributeNames =
        ["shelf_name", "title", "title", "book_id", "book_id", "shelf", "author", "loans"] := by
  obtain ⟨methods, hmethods⟩ := exists_methods
  -- the methods are sorted, which does not evaluate, so the blocks are evaluated one by one
  have hdata : resource.dataAttributes.map (·.map (·.name)) =
      .ok ["shelf_name", "title", "title"] := by decide +kernel
  have hcollections : (resource.collectionClasses SignatureTable.empty.oracle service "Book").map
      (·.map (·.attributeName)) = .ok ["loans"] := by decide +kernel
  have hothers : (resource.identifierAttributes ++ resource.referenceAttributes).map (·.name) =
      ["book_id", "book_id", "shelf", "author"] := by decide +kernel
  obtain ⟨data, hdata, hdataNames⟩ := map_eq_ok.mp hdata
  obtain ⟨collections, hcollections, hcollectionNames⟩ := map_eq_ok.mp hcollections
  have hbody : resource.toStub SignatureTable.empty.oracle service 300 "Book" =
      resource.body SignatureTable.empty.oracle service 300 "Book" "Book" Dict.empty := rfl
  rw [hbody, ResourceInstance.body, hmethods, ok_bind, hdata, ok_bind, hcollections]
  refine ⟨_, rfl, ?_⟩
  rw [Resource.attributeNames, List.append_assoc data, List.map_append, List.map_append, hdataNames,
    hothers, List.map_map]
  exact congrArg (_ ++ ·) hcollectionNames

end Library

namespace ResourceInstance

/-- The attributes of the class of a resource, whatever its definition, its documents and its
client. They stand in four blocks. Every related resource that is declared is either referred to in
the block of the references or can be called. -/
theorem attributes_of_toStub {typeName : String} {definition : ResourceDefinition}
    {context : ServiceContext} {type : ResourceClass} {values : List String} {client : Client}
    {resource : ResourceInstance}
    (htype : ResourceClass.ofDefinition typeName definition context = .ok type)
    (hresource : ofValues type values client = .ok resource) (oracle : Oracle)
    (service : ServiceName) (limit : Nat) (name : String) {stub : Resource}
    (h : resource.toStub oracle service limit name = .ok stub) :
    (∃ ofData ofIdentifiers ofReferences ofCollections,
      stub.InBlocks definition resource service ofData ofIdentifiers ofReferences ofCollections) ∧
    definition.RelatedOnce resource.schema := by
  have hschema := resolve_of_ofValues htype hresource
  obtain ⟨known, -, hbody⟩ := bind_eq_ok.mp h
  exact ⟨inBlocks_of_body hschema hbody, Schema.relatedOnce_of_resolve hschema⟩

/-- Two attributes of a book are titles, and two are identifiers of one name. The third spelling of
that name, in the data, is left out. -/
theorem attributes_of_toStub_book : ∃ stub,
    Library.resource.toStub SignatureTable.empty.oracle Library.service 300 "Book" = .ok stub ∧
      stub.attributeNames =
        ["shelf_name", "title", "title", "book_id", "book_id", "shelf", "author", "loans"] ∧
      (∃ ofData ofIdentifiers ofReferences ofCollections,
        stub.InBlocks Library.book Library.resource Library.service ofData ofIdentifiers
          ofReferences ofCollections) ∧
      Library.book.RelatedOnce Library.resource.schema := by
  obtain ⟨stub, hstub, hnames⟩ := Library.exists_stub
  have htype : ResourceClass.ofDefinition "Book" Library.book Library.context =
      .ok Library.resource.type := rfl
  have hresource : ofValues Library.resource.type ["foo", "foo"] Library.resource.client =
      .ok Library.resource := rfl
  exact ⟨stub, hstub, hnames, attributes_of_toStub htype hresource _ _ _ _ hstub⟩

end ResourceInstance

end ResourceStubs
