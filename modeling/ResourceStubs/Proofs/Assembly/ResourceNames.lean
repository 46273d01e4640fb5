import ResourceStubs.Proofs.Assembly.Success

/-! The names that resource types are made under. The name of a type is found again behind the first
full stop of its type name, so the name of a service that has a full stop itself leaves its rest
before the names of all its types. What is asked of the oracle, the links of the methods and the
names of the collections follow the name that was found. They are those of the document exactly if
the name of the service has no full stop. -/

namespace ResourceStubs

open Fallible

/-- What the name of a service leaves before the names of its resource types: all behind its first
full stop, and the full stop that follows. -/
def keptQualifier (serviceName : String) : String :=
  match Text.splitOnce? ['.'] serviceName.toList with
  | some (_, rest) => String.ofList rest ++ "."
  | none => ""

theorem keptQualifier_eq_empty_iff {serviceName : String} :
    keptQualifier serviceName = "" ↔ '.' ∉ serviceName.toList := by
  rw [keptQualifier, ← Text.splitOnce?_char_eq_none_iff]
  cases Text.splitOnce? ['.'] serviceName.toList <;> simp

theorem ResourceClass.nameInService_eq (type : ResourceClass) :
    type.nameInService = keptQualifier type.context.serviceName ++ type.name := by
  have hname : type.typeName = type.context.serviceName ++ "." ++ type.name := rfl
  have htype :
      type.typeName.toList = type.context.serviceName.toList ++ '.' :: type.name.toList := by
    simp [hname]
  rw [nameInService, htype, Text.splitOnce?_char_append, keptQualifier]
  cases Text.splitOnce? ['.'] type.context.serviceName.toList <;> simp [String.ext_iff]

/-- The class of a resource type is made under a name: it is called so, the oracle is asked about
its methods by the name and has its say, their links lead to the name, and the names of its
collections start with it. -/
structure Resource.MadeUnder (name : String) (oracle : Oracle) (service : ServiceName) (limit : Nat)
    (definition : ResourceDefinition) (stub : Resource) : Prop where
  name_eq : stub.name = name
  methods : ∃ known, oracle.methodsOf name = .ok known ∧
    List.Forall₂ (fun entry method =>
      (∃ text, method.docstring = docstring service limit name name entry.2.name text) ∧
      ∀ signature, known.get? entry.2.name = some signature →
        method = { signature with docstring := method.docstring })
      definition.sortedCallables stub.methods
  collections : ∀ collection ∈ stub.collections, collection.parentName = name ∧
    collection.name = collectionClassName name collection.attributeName

namespace ResourceInstance

variable {resource : ResourceInstance} {oracle : Oracle} {service : ServiceName} {limit : Nat}
  {name stubName : String} {known : Dict Method}

/-- A method has a docstring under its class, and else is the one that is known, if any is. -/
theorem docstring_of_method {callable : Callable} {method : Method}
    (h : resource.method service limit name stubName known callable = .ok method) :
    (∃ text, method.docstring = docstring service limit name stubName callable.name text) ∧
      ∀ signature, known.get? callable.name = some signature →
        method = { signature with docstring := method.docstring } := by
  obtain ⟨signature, hs, h⟩ := bind_eq_ok.mp h
  obtain ⟨text, -, h⟩ := bind_eq_ok.mp h
  obtain rfl := pure_eq_ok.mp h
  refine ⟨⟨text, rfl⟩, fun other ho => ?_⟩
  rw [signature_usual, ho] at hs
  obtain rfl := Except.ok.inj hs
  rfl

theorem names_of_collectionClasses {collections : List Collection}
    (h : resource.collectionClasses oracle service name = .ok collections)
    {collection : Collection} (hc : collection ∈ collections) :
    collection.parentName = name ∧
      collection.name = collectionClassName name collection.attributeName := by
  obtain ⟨entry, -, h⟩ := exists_of_mem_mapM h hc
  obtain ⟨hparent, hattribute, hname, -⟩ := names_of_collectionClass h
  exact ⟨hparent, by rw [hname, hattribute]⟩

theorem madeUnder_of_body {definition : ResourceDefinition} {stub : Resource}
    (hcallables : resource.schema.sortedCallables = definition.sortedCallables)
    (hknown : oracle.methodsOf name = .ok known)
    (h : resource.body oracle service limit name name known = .ok stub) :
    stub.MadeUnder name oracle service limit definition := by
  obtain ⟨hname, hmethods, hcollections⟩ := resource.parts_of_body h
  refine ⟨hname, ⟨known, hknown, ?_⟩, fun _ hc => names_of_collectionClasses hcollections hc⟩
  rw [← hcallables]
  exact (mapM_eq_ok.mp hmethods).imp fun entry method hm => docstring_of_method hm

end ResourceInstance

namespace ServiceContext

variable {context : ServiceContext} {oracle : Oracle} {service : ServiceName} {limit : Nat}

theorem nameInService_of_instantiate {declared : String × ResourceDefinition}
    {resource : ResourceInstance} (h : context.instantiate declared = .ok resource) :
    resource.type.nameInService = keptQualifier context.serviceName ++ declared.1 := by
  obtain ⟨collections, rfl⟩ := instantiate_eq_ok h
  exact ResourceClass.nameInService_eq _

/-- The classes are made in the order of the document, each under the name of its type with what the
name of the service leaves before it. -/
theorem madeUnder_of_resourceClasses {stubs : List Resource}
    (h : context.resourceClasses oracle service limit = .ok stubs) :
    List.Forall₂ (fun declared stub =>
        stub.MadeUnder
          (keptQualifier context.serviceName ++ declared.1) oracle service limit declared.2)
      context.document.resources.entries stubs := by
  refine forall₂_of_resourceClasses h fun declared resource known stub hr hknown hbody => ?_
  rw [nameInService_of_instantiate hr] at hknown hbody
  exact ResourceInstance.madeUnder_of_body (sortedCallables_of_instantiate hr) hknown hbody

end ServiceContext

/-- Names with something before them are other names. -/
theorem map_append_eq_self_iff {qualifier : String} {names : List String} :
    names.map (qualifier ++ ·) = names ↔ qualifier = "" ∨ names = [] := by
  cases names with
  | nil => simp
  | cons name names =>
    constructor
    · intro h
      have hname : (qualifier ++ name).toList = name.toList :=
        congrArg String.toList (List.cons.inj h).1
      exact .inl (by simpa using hname)
    · rintro (rfl | h)
      · simp
      · cases h

/-! ### Robots -/

namespace Robots

def model : ServiceModel where
  serviceName := "acme.robots"
  metadata := .empty
  operations := .empty
  shapes := .empty
  documentation := none

/-- A robot has an arm. -/
def document : ResourceDocument := ⟨none, .ofList [("Arm", .empty)]⟩

def store : MemoryStore := ⟨.ofList [("acme.robots", ⟨model, some document, none⟩)]⟩

def service : ServiceName := .ofNames "acme.robots" "Robots"

theorem exists_stubs : ∃ root,
    store.session.stubs SignatureTable.empty.oracle service 300 = .ok (some root) ∧
      root.subResources.map (·.name) = ["robots.Arm"] := by
  have h : (store.session.stubs SignatureTable.empty.oracle service 300).map
      (Option.map fun root => root.subResources.map (·.name)) = .ok (some ["robots.Arm"]) := by
    decide +kernel
  exact exists_of_map_eq_ok h

end Robots

namespace Session

/-- The names of the classes of resource types, in a run that gives stub classes. Each is made under
the name of its type with what the name of the service leaves before it. They have the names of
their types exactly if the name of the service has no full stop or there are no types, and then each
is made under the name of its type. -/
theorem subResources_madeUnder (session : Session) (service : ServiceName) (oracle : Oracle)
    (limit : Nat) {root : ServiceResource}
    (h : session.stubs oracle service limit = .ok (some root)) :
    ∃ document, session.resourceDocument service.name = .ok (some document) ∧
      List.Forall₂ (fun declared stub =>
          stub.MadeUnder (keptQualifier service.name ++ declared.1) oracle service limit declared.2)
        document.resources.entries root.subResources ∧
      (root.subResources.map (·.name) = document.resources.keys ↔
        '.' ∉ service.name.toList ∨ document.resources.entries = []) ∧
      ('.' ∉ service.name.toList ∨ document.resources.entries = [] →
        List.Forall₂
          (fun declared stub => stub.MadeUnder declared.1 oracle service limit declared.2)
          document.resources.entries root.subResources) := by
  obtain ⟨context, body, classes, hhas, hname, -, -, hclasses, rfl⟩ := exists_steps_of_stubs h
  have hmade := ServiceContext.madeUnder_of_resourceClasses hclasses
  rw [hname] at hmade
  refine ⟨context.document, hname ▸ hhas.document, hmade, ?_, ?_⟩
  · have hnames : classes.map (·.name) =
        context.document.resources.keys.map (keptQualifier service.name ++ ·) := by
      rw [Dict.keys, List.map_map]
      exact (map_eq_map_of_forall₂ (hmade.imp fun _ _ hm => hm.name_eq.symm)).symm
    change classes.map (·.name) = _ ↔ _
    rw [hnames, map_append_eq_self_iff, keptQualifier_eq_empty_iff, Dict.keys, List.map_eq_nil_iff]
  · rintro (hstop | hnone)
    · simp only [keptQualifier_eq_empty_iff.mpr hstop, String.empty_append] at hmade
      exact hmade
    · rw [hnone] at hmade ⊢
      cases hmade
      exact .nil

theorem subResources_madeUnder_robots : ∃ root,
    Robots.store.session.stubs SignatureTable.empty.oracle Robots.service 300 = .ok (some root) ∧
      ∃ document, Robots.store.session.resourceDocument "acme.robots" = .ok (some document) ∧
        List.Forall₂ (fun declared stub =>
            stub.MadeUnder (keptQualifier "acme.robots" ++ declared.1) SignatureTable.empty.oracle
              Robots.service 300 declared.2)
          document.resources.entries root.subResources ∧
        (root.subResources.map (·.name) = document.resources.keys ↔
          '.' ∉ "acme.robots".toList ∨ document.resources.entries = []) := by
  obtain ⟨root, h, -⟩ := Robots.exists_stubs
  obtain ⟨document, hdocument, hmade, hnames, -⟩ := subResources_madeUnder _ Robots.service _ _ h
  exact ⟨root, h, document, hdocument, hmade, hnames⟩

/-- The classes may have other names than the types of the document: the arm of acme.robots becomes
robots.Arm. -/
theorem not_forall_names_eq_keys : ¬∀ (session : Session) (service : ServiceName) (oracle : Oracle)
    (limit : Nat) (root : ServiceResource),
      session.stubs oracle service limit = .ok (some root) →
      ∃ document, session.resourceDocument service.name = .ok (some document) ∧
        root.subResources.map (·.name) = document.resources.keys := by
  intro h
  obtain ⟨root, hrun, hnames⟩ := Robots.exists_stubs
  obtain ⟨document, hdocument, hkeys⟩ := h _ _ _ _ _ hrun
  obtain rfl : Robots.document = document := Option.some.inj (Except.ok.inj hdocument)
  rw [hnames] at hkeys
  exact absurd hkeys (by decide)

end Session

end ResourceStubs
