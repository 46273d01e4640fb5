import ResourceStubs.Proofs.Assembly.CollectionNames
import ResourceStubs.Proofs.Assembly.Waits

/-! In which order a run asks its oracle. A run asks for the methods of the service resource, of its
collection classes, and then for each resource type of the type itself and of its collection
classes. An oracle that knows nothing and fails on some of these questions lets the run end with the
first failure in that order. If it fails on none of them the run goes on as if it never failed. The
proof carries the questions that a computation asks beside the computation. -/

namespace ResourceStubs

open Fallible

variable {α β γ : Type}

/-- The failure, if there is one, and else the result. -/
def interrupt (failure : Option Error) (result : α) : Except Error α :=
  match failure with
  | some e => .error e
  | none => .ok result

/-- The oracle that knows nothing, and fails on some questions. -/
def Oracle.failing (fails : Option String → Option Error) : Oracle where
  methodsOf name := interrupt (fails (some name)) Dict.empty
  rootMethods := interrupt (fails none) Dict.empty

/-- The computation comes to the result unless one of the questions fails. Then it ends with the
first failure. -/
def Asks (fails : Option String → Option Error) (questions : List (Option String))
    (x : Except Error α) (result : α) : Prop :=
  x = interrupt (questions.findSome? fails) result

namespace Asks

variable {fails : Option String → Option Error}

theorem of_eq_ok {x : Except Error α} {result : α} (h : x = .ok result) :
    Asks fails [] x result := h

theorem pure (result : α) : Asks fails [] (Pure.pure result) result := rfl

theorem ok_bind {asked : List (Option String)} {x : Except Error α} {f : α → Except Error β} {a : α}
    {b : β} (hx : x = .ok a) (hf : Asks fails asked (f a) b) : Asks fails asked (x >>= f) b := by
  subst hx
  exact hf

/-- What is asked along a chain is asked by its links one after the other. -/
theorem bind {asked asked' : List (Option String)} {x : Except Error α} {f : α → Except Error β}
    {a : α} {b : β} (hx : Asks fails asked x a) (hf : Asks fails asked' (f a) b) :
    Asks fails (asked ++ asked') (x >>= f) b := by
  rw [Asks, List.findSome?_append, show x = _ from hx]
  cases asked.findSome? fails with
  | some e => rfl
  | none => exact hf

/-- What asks nothing more can follow. -/
theorem bind_ok {asked : List (Option String)} {x : Except Error α} {f : α → Except Error β} {a : α}
    {b : β} (hx : Asks fails asked x a) (hf : f a = .ok b) : Asks fails asked (x >>= f) b := by
  have h := hx.bind (of_eq_ok hf)
  rwa [List.append_nil] at h

/-- A traversal of what came of other elements asks what belongs to each of those. -/
theorem mapM {f g : β → Except Error γ} {questions : α → List (Option String)} {R : α → β → Prop}
    {xs : List α} {ys : List β} {zs : List γ} (hxy : List.Forall₂ R xs ys)
    (hyz : ys.mapM g = .ok zs)
    (h : ∀ x y z, R x y → g y = .ok z → Asks fails (questions x) (f y) z) :
    Asks fails (xs.flatMap questions) (ys.mapM f) zs := by
  induction hxy generalizing zs with
  | nil =>
    obtain rfl := pure_eq_ok.mp hyz
    exact pure []
  | cons hR _ ih =>
    rw [List.mapM_cons] at hyz ⊢
    obtain ⟨z, hz, hyz⟩ := bind_eq_ok.mp hyz
    obtain ⟨zs, hzs, hyz⟩ := bind_eq_ok.mp hyz
    exact (h _ _ _ hR hz).bind ((ih hzs).bind_ok hyz)

theorem ask (question : Option String) :
    Asks fails [question] ((Oracle.failing fails).ask question) Dict.empty := by
  cases question with
  | none => cases h : fails none <;> simp [Asks, Oracle.ask, Oracle.failing, interrupt, h]
  | some name =>
    cases h : fails (some name) <;> simp [Asks, Oracle.ask, Oracle.failing, interrupt, h]

end Asks

/-! ### What is asked for a class -/

/-- What is asked for the class of a resource type: what the type is asked about by, and the names
of its collection classes if its own class has the name. -/
def ResourceDefinition.questions (definition : ResourceDefinition) (asked : Option String)
    (name : String) : List (Option String) :=
  asked :: (definition.collectionNames name).map some

/-- What is asked for the classes of a document, where the names of the resource types have the
qualifier before them. -/
def ResourceDocument.questions (document : ResourceDocument) (qualifier : String) :
    List (Option String) :=
  document.root.questions none Session.serviceResource ++
    document.resources.entries.flatMap fun declared =>
      declared.2.questions (some (qualifier ++ declared.1)) (qualifier ++ declared.1)

/-- What is asked for stub classes, by their own names. -/
def ServiceResource.questions (root : ServiceResource) : List (Option String) :=
  none :: root.collections.map (some ·.name) ++ root.subResources.flatMap fun stub =>
    some stub.name :: stub.collections.map (some ·.name)

theorem SignatureTable.ask_empty (question : Option String) :
    SignatureTable.empty.oracle.ask question = .ok Dict.empty := by
  cases question <;> rfl

section

variable (fails : Option String → Option Error) {service : ServiceName} {limit : Nat}

theorem collectionClass_asks {parentName : String} {collection : CollectionSchema} {target : Target}
    {stub : Collection}
    (h : collectionClass SignatureTable.empty.oracle service parentName collection target =
      .ok stub) :
    Asks fails [some (collectionClassName parentName collection.name)]
      (collectionClass (.failing fails) service parentName collection target) stub := by
  obtain ⟨known, hknown, h⟩ := bind_eq_ok.mp h
  obtain rfl := Except.ok.inj hknown
  exact (Asks.ask (some _)).bind_ok h

namespace ServiceContext

variable {context : ServiceContext} {declared : String × ResourceDefinition}
  {resource : ResourceInstance}

/-- The class of a resource is made with what is known of it and what is asked about its
collections. -/
theorem body_asks (hr : context.instantiate declared = .ok resource) {name stubName : String}
    {known : Dict Method} {stub : Resource}
    (h : resource.body SignatureTable.empty.oracle service limit name stubName known = .ok stub) :
    Asks fails ((declared.2.collectionNames name).map some)
      (resource.body (.failing fails) service limit name stubName known) stub := by
  obtain ⟨methods, hmethods, h⟩ := bind_eq_ok.mp h
  obtain ⟨data, hdata, h⟩ := bind_eq_ok.mp h
  obtain ⟨collections, hcollections, h⟩ := bind_eq_ok.mp h
  have hasks : Asks fails ((declared.2.collectionNames name).map some)
      (resource.collectionClasses (.failing fails) service name) collections := by
    rw [← names_of_instantiate hr name, List.map_map, List.map_eq_flatMap]
    have hself : List.Forall₂ Eq resource.schema.targetedCollections
        resource.schema.targetedCollections := List.forall₂_refl _
    refine Asks.mapM hself hcollections fun entry other collection heq hc => ?_
    subst heq
    exact collectionClass_asks fails hc
  exact .ok_bind hmethods (.ok_bind hdata (hasks.bind_ok h))

theorem ask_body_asks (hr : context.instantiate declared = .ok resource) (asked : Option String)
    {name stubName : String} {stub : Resource}
    (h : (SignatureTable.empty.oracle.ask asked >>=
      resource.body SignatureTable.empty.oracle service limit name stubName) = .ok stub) :
    Asks fails (declared.2.questions asked name)
      ((Oracle.failing fails).ask asked >>=
        resource.body (.failing fails) service limit name stubName) stub := by
  rw [SignatureTable.ask_empty, Fallible.ok_bind] at h
  exact (Asks.ask asked).bind (body_asks fails hr h)

theorem rootClass_asks {stub : Resource}
    (h : context.rootClass SignatureTable.empty.oracle service limit = .ok stub) :
    Asks fails (context.document.root.questions none Session.serviceResource)
      (context.rootClass (.failing fails) service limit) stub := by
  obtain ⟨resource, hr, h⟩ := bind_eq_ok.mp h
  exact .ok_bind hr (ask_body_asks fails hr none h)

theorem resourceClasses_asks {stubs : List Resource}
    (h : context.resourceClasses SignatureTable.empty.oracle service limit = .ok stubs) :
    Asks fails (context.document.resources.entries.flatMap fun declared =>
        declared.2.questions (some (keptQualifier context.serviceName ++ declared.1))
          (keptQualifier context.serviceName ++ declared.1))
      (context.resourceClasses (.failing fails) service limit) stubs := by
  obtain ⟨resources, hresources, h⟩ := bind_eq_ok.mp h
  refine .ok_bind hresources (Asks.mapM (mapM_eq_ok.mp hresources) h ?_)
  intro declared resource stub hr hstub
  rw [nameInService_of_instantiate hr] at hstub ⊢
  exact ask_body_asks fails hr (some _) hstub

end ServiceContext

namespace Session

variable {session : Session}

/-- The names that are asked about are those of the classes that come of it. -/
theorem questions_of_stubs {oracle : Oracle} {root : ServiceResource}
    (h : session.stubs oracle service limit = .ok (some root)) {document : ResourceDocument}
    (hd : session.resourceDocument service.name = .ok (some document)) :
    document.questions (keptQualifier service.name) = root.questions := by
  obtain ⟨document', body, hd', hcollections, hparents⟩ := hasCollectionsOf_of_stubs h
  obtain rfl : document = document' := Option.some.inj (Except.ok.inj (hd.symm.trans hd'))
  obtain ⟨hroot, hothers⟩ := List.forall₂_cons.mp hparents
  rw [List.forall₂_map_left_iff] at hothers
  have hclass {parent : String × ResourceDefinition} {stub : Resource}
      (hs : stub.HasCollectionsOf oracle parent) :
      (parent.2.collectionNames parent.1).map some = stub.collections.map (some ·.name) := by
    rw [← hs.names, List.map_map]
    rfl
  have heach : document.resources.entries.map (fun declared =>
        declared.2.questions (some (keptQualifier service.name ++ declared.1))
          (keptQualifier service.name ++ declared.1)) =
      root.subResources.map fun stub => some stub.name :: stub.collections.map (some ·.name) := by
    refine map_eq_map_of_forall₂ (hothers.imp fun declared stub hs => ?_)
    rw [ResourceDefinition.questions, hclass hs, hs.name_eq]
  rw [ResourceDocument.questions, ServiceResource.questions, List.flatMap_def, List.flatMap_def,
    heach, ResourceDefinition.questions, hclass hroot, hcollections]

/-- A run asks for the classes of its document, and that is all it asks. -/
theorem stubs_asks {root : ServiceResource}
    (h : session.stubs SignatureTable.empty.oracle service limit = .ok (some root))
    {document : ResourceDocument}
    (hd : session.resourceDocument service.name = .ok (some document)) :
    Asks fails (document.questions (keptQualifier service.name))
      (session.stubs (.failing fails) service limit) (some root) := by
  obtain ⟨context, body, classes, hhas, hname, hbody, hmodel, hclasses, rfl⟩ :=
    exists_steps_of_stubs h
  have hd' := hhas.document
  rw [hname, hd] at hd'
  obtain rfl := Option.some.inj (Except.ok.inj hd')
  rw [hhas.stubs hname]
  have hothers := ServiceContext.resourceClasses_asks fails hclasses
  rw [hname] at hothers
  have hcheck : checkName service.name context.model.serviceName = .ok () :=
    checkName_eq_ok_iff.mpr hmodel
  exact (ServiceContext.rootClass_asks fails hbody).bind
    (.ok_bind hcheck (hothers.bind_ok rfl))

/-- The failures of an oracle end a run in the order in which it is asked, and change nothing else.
It is asked about the service resource and its collections with a target, and then about each
resource type and its collections with a target, in the order of the document, by the names of their
classes. If it fails on one of these, the run ends with the first failure; if on none, it comes to
the classes that it comes to without any signatures. Without resource types the oracle is not asked
at all. -/
theorem stubs_of_failing (session : Session) (service : ServiceName) (limit : Nat) :
    (∀ root, session.stubs SignatureTable.empty.oracle service limit = .ok (some root) →
      ∃ document, session.resourceDocument service.name = .ok (some document) ∧
        document.questions (keptQualifier service.name) = root.questions ∧
        ∀ fails, session.stubs (.failing fails) service limit =
          match root.questions.findSome? fails with
          | some e => .error e
          | none => .ok (some root)) ∧
    (∀ document?, session.resourceDocument service.name = .ok document? →
      (∀ document, document? = some document → document.isEmpty = true) →
      ∀ oracle, session.stubs oracle service limit = .ok none) ∧
    (session.stubs SignatureTable.empty.oracle service limit = .ok none →
      ∀ oracle, session.stubs oracle service limit = .ok none) := by
  refine ⟨fun root h => ?_, fun document? hd hempty oracle => ?_, fun h oracle => ?_⟩
  · obtain ⟨context, hhas, hname⟩ := exists_has_of_stubs h
    have hd : session.resourceDocument service.name = .ok (some context.document) :=
      hname ▸ hhas.document
    refine ⟨context.document, hd, questions_of_stubs h hd, fun fails => ?_⟩
    rw [← questions_of_stubs h hd]
    exact stubs_asks fails h hd
  · exact stubs_of_undeclared hd hempty oracle limit
  · exact stubs_eq_none_iff.mpr (stubs_eq_none_iff.mp h)

end Session

end

/-! ### A harbour -/

namespace Harbour

/-- Nothing is known of the hooks of a gantry, nor of hooks at all. -/
def fails (question : Option String) : Option Error :=
  if question = some "Hook" then some (.introspection "hooks")
  else if question = some "GantryHooksCollection" then some (.introspection "hooks of a gantry")
  else none

/-- A harbour without resources. -/
def bare : MemoryStore := ⟨.ofList [("harbour", ⟨model, none, none⟩)]⟩

theorem exists_questions : ∃ root,
    (store "Gantry").session.stubs SignatureTable.empty.oracle service 300 = .ok (some root) ∧
      root.questions = [none, some "Dock", some "DockCraneHooksCollection", some "Gantry",
        some "GantryHooksCollection", some "Hook"] :=
  exists_of_map_eq_ok (by decide +kernel)

end Harbour

namespace Session

/-- Of two failures the one for the hooks of the gantry comes first. In a harbour without resources
neither comes. -/
theorem stubs_of_failing_harbour :
    (Harbour.store "Gantry").session.stubs (.failing Harbour.fails) Harbour.service 300 =
        .error (.introspection "hooks of a gantry") ∧
      Harbour.bare.session.stubs (.failing Harbour.fails) Harbour.service 300 = .ok none := by
  obtain ⟨root, h, hquestions⟩ := Harbour.exists_questions
  obtain ⟨hasked, -, -⟩ := stubs_of_failing (Harbour.store "Gantry").session Harbour.service 300
  obtain ⟨document, -, -, hfails⟩ := hasked root h
  obtain ⟨-, hnone, -⟩ := stubs_of_failing Harbour.bare.session Harbour.service 300
  refine ⟨?_, hnone none rfl (fun document h => nomatch h) _⟩
  rw [hfails, hquestions]
  rfl

end Session

end ResourceStubs
