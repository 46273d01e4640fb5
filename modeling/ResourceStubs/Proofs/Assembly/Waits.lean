import ResourceStubs.Proofs.Assembly.Success

/-! What the waiter model of a service changes. It is looked at in the documentation of waits alone,
and a wait without a waiter has an empty text there, so two runs over documents that differ in the
waiter model only give the same classes but for the docstrings of waits, or they end alike. The
documents are exchanged under the resources of one run to get those of the other. -/

namespace ResourceStubs

open Fallible

variable {α β γ : Type}

/-- The elements changed by what stands beside them in another list. Those with nothing beside them
stay as they are. -/
def changeBeside (change : α → β → β) : List α → List β → List β
  | x :: xs, y :: ys => change x y :: changeBeside change xs ys
  | _, ys => ys

theorem map_changeBeside {change : α → β → β} {view : β → γ}
    (h : ∀ x y, view (change x y) = view y) (xs : List α) (ys : List β) :
    (changeBeside change xs ys).map view = ys.map view := by
  induction xs generalizing ys with
  | nil => rfl
  | cons x xs ih =>
    cases ys with
    | nil => rfl
    | cons y ys => rw [changeBeside, List.map_cons, List.map_cons, h, ih]

/-- Traversals whose steps agree after the change agree after it as a whole. -/
theorem mapM_changeBeside {change : α → β → β} {R : α → γ → Prop} {f g : γ → Except Error β}
    {xs : List α} {zs : List γ} (hxz : List.Forall₂ R xs zs)
    (h : ∀ x z, R x z → (f z).map (change x) = (g z).map (change x)) :
    (zs.mapM f).map (changeBeside change xs) = (zs.mapM g).map (changeBeside change xs) := by
  induction hxz with
  | nil => rfl
  | @cons x z xs zs hR _ ih =>
    rw [List.mapM_cons, List.mapM_cons]
    refine Matches.map_eq_of_alike ?_
    refine (Matches.of_map_eq (h x z hR)).bind fun y y' hy => ?_
    refine (Matches.of_map_eq ih).bind fun ys ys' hys => Matches.pure ?_
    rw [changeBeside, changeBeside, hy, hys]

/-! ### Classes without the docstrings of waits -/

/-- The callable is a wait. -/
def Callable.isWaiter : Callable → Bool
  | .waiter _ _ _ => true
  | _ => false

/-- The method without its docstring. -/
def Method.undocumented (method : Method) : Method := { method with docstring := "" }

/-- The method, without its docstring if the callable that it is for is a wait. -/
def Method.withoutWaitDoc (entry : String × Callable) (method : Method) : Method :=
  if entry.2.isWaiter then method.undocumented else method

/-- The class of a definition without the docstrings of its waits. -/
def Resource.withoutWaitDocs (definition : ResourceDefinition) (stub : Resource) : Resource :=
  { stub with
    methods := changeBeside Method.withoutWaitDoc definition.sortedCallables stub.methods }

/-- The class without the docstrings of its methods. -/
def Resource.undocumented (stub : Resource) : Resource :=
  { stub with methods := stub.methods.map Method.undocumented }

/-- The classes of a document without the docstrings of waits. -/
def ServiceResource.withoutWaitDocs (document : ResourceDocument) (root : ServiceResource) :
    ServiceResource :=
  { root with
    methods := changeBeside Method.withoutWaitDoc document.root.sortedCallables root.methods
    subResources := changeBeside (fun declared stub => stub.withoutWaitDocs declared.2)
      document.resources.entries root.subResources }

/-- The classes without the docstrings of the methods of resources. -/
def ServiceResource.undocumented (root : ServiceResource) : ServiceResource :=
  { root with
    methods := root.methods.map Method.undocumented
    subResources := root.subResources.map Resource.undocumented }

theorem Method.undocumented_withoutWaitDoc (entry : String × Callable) (method : Method) :
    (method.withoutWaitDoc entry).undocumented = method.undocumented := by
  rw [withoutWaitDoc]
  split <;> rfl

theorem Resource.undocumented_withoutWaitDocs (definition : ResourceDefinition) (stub : Resource) :
    (stub.withoutWaitDocs definition).undocumented = stub.undocumented := by
  simp only [undocumented, withoutWaitDocs,
    map_changeBeside Method.undocumented_withoutWaitDoc]

/-- Only docstrings are left out with those of waits. -/
theorem ServiceResource.undocumented_withoutWaitDocs (document : ResourceDocument)
    (root : ServiceResource) :
    (root.withoutWaitDocs document).undocumented = root.undocumented := by
  simp only [undocumented, withoutWaitDocs, map_changeBeside Method.undocumented_withoutWaitDoc,
    map_changeBeside fun declared : String × ResourceDefinition =>
      Resource.undocumented_withoutWaitDocs declared.2]

/-! ### Another waiter model -/

/-- The context with another waiter model. -/
def ServiceContext.withWaiters (context : ServiceContext) (waiters : Option WaiterModel) :
    ServiceContext :=
  { context with waiters }

namespace ResourceInstance

/-- The resource under another waiter model. -/
def withWaiters (resource : ResourceInstance) (waiters : Option WaiterModel) : ResourceInstance :=
  { resource with
    type := { resource.type with context := resource.type.context.withWaiters waiters } }

variable (resource : ResourceInstance) (waiters : Option WaiterModel)

theorem signature_withWaiters (name : String) (callable : Callable) (known : Dict Method) :
    (resource.withWaiters waiters).signature name callable (SignatureSource.usual known) =
      resource.signature name callable (SignatureSource.usual known) := by
  rw [signature_usual, signature_usual]
  cases callable <;> rfl

theorem documentation_withWaiters (name : String) {callable : Callable}
    (h : callable.isWaiter = false) :
    (resource.withWaiters waiters).documentation name callable =
      resource.documentation name callable := by
  cases callable with
  | waiter => cases h
  | action | subResource | load | availableSubresources => rfl

/-- A wait is documented under every waiter model. -/
theorem documentation_of_isWaiter (name : String) {callable : Callable}
    (h : callable.isWaiter = true) : ∃ text, resource.documentation name callable = .ok text := by
  cases callable with
  | waiter name declaredName definition =>
    rw [documentation]
    split <;> exact ⟨_, rfl⟩
  | action | subResource | load | availableSubresources => cases h

variable (oracle : Oracle) (service : ServiceName) (limit : Nat) (name stubName : String)
  (known : Dict Method)

/-- The waiter model changes nothing but the docstring of a method, and that only of a wait. -/
theorem method_withWaiters (entry : String × Callable) :
    ((resource.withWaiters waiters).method service limit name stubName known entry.2).map
        (Method.withoutWaitDoc entry) =
      (resource.method service limit name stubName known entry.2).map
        (Method.withoutWaitDoc entry) := by
  rw [method, method, signature_withWaiters]
  cases resource.signature name entry.2 (SignatureSource.usual known) with
  | error e => rfl
  | ok signature =>
    rw [ok_bind, ok_bind]
    cases hw : entry.2.isWaiter with
    | false => rw [documentation_withWaiters resource waiters name hw]
    | true =>
      obtain ⟨text, ht⟩ := resource.documentation_of_isWaiter name hw
      obtain ⟨text', ht'⟩ := (resource.withWaiters waiters).documentation_of_isWaiter name hw
      rw [ht, ht']
      simp [bind, Except.bind, pure, Except.pure, Except.map, Method.withoutWaitDoc,
        Method.undocumented, hw]

theorem methods_withWaiters :
    ((resource.withWaiters waiters).methods service limit name stubName known).map
        (changeBeside Method.withoutWaitDoc resource.schema.sortedCallables) =
      (resource.methods service limit name stubName known).map
        (changeBeside Method.withoutWaitDoc resource.schema.sortedCallables) := by
  have hself : List.Forall₂ Eq resource.schema.sortedCallables resource.schema.sortedCallables :=
    List.forall₂_refl _
  refine mapM_changeBeside hself fun entry other ho => ?_
  subst ho
  exact resource.method_withWaiters waiters service limit name stubName known entry

/-- The class of a resource without the docstrings of its waits does not depend on the waiter
model. -/
theorem body_withWaiters {definition : ResourceDefinition}
    (hcallables : resource.schema.sortedCallables = definition.sortedCallables) :
    ((resource.withWaiters waiters).body oracle service limit name stubName known).map
        (Resource.withoutWaitDocs definition) =
      (resource.body oracle service limit name stubName known).map
        (Resource.withoutWaitDocs definition) := by
  have hmethods := resource.methods_withWaiters waiters service limit name stubName known
  rw [hcallables] at hmethods
  refine Matches.map_eq_of_alike ?_
  refine (Matches.of_map_eq hmethods).bind fun methods methods' hm => ?_
  refine (Matches.of_eq resource.dataAttributes).bind fun data data' hdata => ?_
  refine (Matches.of_eq (resource.collectionClasses oracle service name)).bind
    fun collections collections' hc => ?_
  subst hdata hc
  refine Matches.pure ?_
  simp only [Resource.withoutWaitDocs, hm]
  rfl

/-- So it is with the methods that an oracle knows. -/
theorem ask_body_withWaiters (asked : Option String) {definition : ResourceDefinition}
    (hcallables : resource.schema.sortedCallables = definition.sortedCallables) :
    (oracle.ask asked >>=
      (resource.withWaiters waiters).body oracle service limit name stubName).map
        (Resource.withoutWaitDocs definition) =
      (oracle.ask asked >>= resource.body oracle service limit name stubName).map
        (Resource.withoutWaitDocs definition) := by
  cases oracle.ask asked with
  | error e => rfl
  | ok known =>
    exact resource.body_withWaiters waiters oracle service limit name stubName known hcallables

end ResourceInstance

theorem ServiceResource.withoutWaitDocs_ofResource (document : ResourceDocument) (body : Resource)
    (subResources : List Resource) :
    (ServiceResource.ofResource body subResources).withoutWaitDocs document =
      .ofResource (body.withoutWaitDocs document.root)
        (changeBeside (fun declared stub => stub.withoutWaitDocs declared.2)
          document.resources.entries subResources) := rfl

namespace ServiceContext

variable (context : ServiceContext) (waiters : Option WaiterModel) (oracle : Oracle)
  (service : ServiceName) (limit : Nat)

theorem instantiate_withWaiters (declared : String × ResourceDefinition) :
    (context.withWaiters waiters).instantiate declared =
      (context.instantiate declared).map (·.withWaiters waiters) := by
  change (Schema.resolve declared.1 declared.2 context.document.resources).map _ =
    ((Schema.resolve declared.1 declared.2 context.document.resources).map _).map _
  cases Schema.resolve declared.1 declared.2 context.document.resources <;> rfl

theorem rootClass_withWaiters :
    ((context.withWaiters waiters).rootClass oracle service limit).map
        (Resource.withoutWaitDocs context.document.root) =
      (context.rootClass oracle service limit).map
        (Resource.withoutWaitDocs context.document.root) := by
  have hinstance := context.instantiate_withWaiters waiters context.root
  rw [rootClass, rootClass, show (context.withWaiters waiters).root = context.root from rfl,
    hinstance]
  cases hroot : context.instantiate context.root with
  | error e => rfl
  | ok root =>
    have hcallables : root.schema.sortedCallables = context.document.root.sortedCallables := by
      rw [sortedCallables_of_instantiate hroot, ServiceContext.root]
    exact root.ask_body_withWaiters waiters oracle service limit Session.serviceResource
      (ServiceResource.classNameOf service) none hcallables

theorem resourceClasses_withWaiters :
    ((context.withWaiters waiters).resourceClasses oracle service limit).map
        (changeBeside (fun declared stub => stub.withoutWaitDocs declared.2)
          context.document.resources.entries) =
      (context.resourceClasses oracle service limit).map
        (changeBeside (fun declared stub => stub.withoutWaitDocs declared.2)
          context.document.resources.entries) := by
  have hinstances :
      context.document.resources.entries.mapM (context.withWaiters waiters).instantiate =
      (context.document.resources.entries.mapM context.instantiate).map
        (List.map (·.withWaiters waiters)) := by
    rw [funext (context.instantiate_withWaiters waiters), mapM_map]
  rw [resourceClasses, resourceClasses,
    show (context.withWaiters waiters).document = context.document from rfl, hinstances]
  cases hresources : context.document.resources.entries.mapM context.instantiate with
  | error e => rfl
  | ok resources =>
    rw [map_ok, ok_bind, ok_bind, List.mapM_map]
    refine mapM_changeBeside (mapM_eq_ok.mp hresources) fun declared resource hr => ?_
    exact resource.ask_body_withWaiters waiters oracle service limit resource.type.nameInService
      resource.type.nameInService (some resource.type.nameInService)
      (sortedCallables_of_instantiate hr)

end ServiceContext

/-! ### Runs -/

namespace Session

/-- Without the docstrings of waits, runs over two waiter models are the same. -/
theorem Has.stubs_withWaiters {session session' : Session} {context : ServiceContext}
    {waiters : Option WaiterModel} {service : ServiceName} (h : session.Has context)
    (h' : session'.Has (context.withWaiters waiters)) (hname : context.serviceName = service.name)
    (oracle : Oracle) (limit : Nat) :
    (session'.stubs oracle service limit).map
        (Option.map (ServiceResource.withoutWaitDocs context.document)) =
      (session.stubs oracle service limit).map
        (Option.map (ServiceResource.withoutWaitDocs context.document)) := by
  rw [h.stubs hname, h'.stubs hname]
  refine Matches.map_eq_of_alike ?_
  have hroot := context.rootClass_withWaiters waiters oracle service limit
  have hclasses := context.resourceClasses_withWaiters waiters oracle service limit
  refine (Matches.of_map_eq hroot).bind fun body body' hbody => ?_
  refine (Matches.of_eq (checkName service.name context.model.serviceName)).bind fun _ _ _ => ?_
  refine (Matches.of_map_eq hclasses).bind fun subs subs' hsubs => Matches.pure ?_
  rw [Option.map_some, Option.map_some, ServiceResource.withoutWaitDocs_ofResource,
    ServiceResource.withoutWaitDocs_ofResource, hbody, hsubs]

/-- A service without resource types has no classes. -/
theorem stubs_of_undeclared {session : Session} {service : ServiceName}
    {document? : Option ResourceDocument}
    (h : session.resourceDocument service.name = .ok document?)
    (hempty : ∀ document, document? = some document → document.isEmpty = true) (oracle : Oracle)
    (limit : Nat) : session.stubs oracle service limit = .ok none := by
  have hresource : session.resource service = .ok none := by
    rw [resource, h, ok_bind]
    cases document? with
    | none => rfl
    | some document =>
      dsimp only
      rw [hempty document rfl]
      rfl
  rw [stubs, hresource]
  rfl

end Session

/-- The documents of a service but for its waiter model. -/
def ServiceDocuments.withoutWaiters (documents : ServiceDocuments) : ServiceDocuments :=
  { documents with waiters := none }

/-! ### A kiln -/

namespace Kiln

/-- A kiln can be waited for. -/
def kiln : ResourceDefinition :=
  { ResourceDefinition.empty with waiters := .ofList [("Hot", ⟨"KilnHot", [], none⟩)] }

def document : ResourceDocument := ⟨none, .ofList [("Kiln", kiln)]⟩

def model : ServiceModel where
  serviceName := "kiln"
  metadata := .empty
  operations := .ofList [("DescribeKiln", ⟨none, none, none, none⟩)]
  shapes := .empty
  documentation := none

/-- A kiln is hot after a while. -/
def waiters : WaiterModel := ⟨2, .ofList [("KilnHot", ⟨"DescribeKiln", 20, 25, none, []⟩)]⟩

def store (waiters : Option WaiterModel) : MemoryStore :=
  ⟨.ofList [("kiln", ⟨model, some document, waiters⟩)]⟩

def service : ServiceName := .ofNames "kiln" "Kiln"

theorem acyclic : model.Acyclic := by
  intro name h
  obtain ⟨inner, hi, -⟩ := Relation.TransGen.head'_iff.mp h
  cases hi with
  | member hs | key hs | value hs => cases hs

theorem isSound {definition : ResourceDefinition} (hcollections : definition.hasMany = .empty)
    (hactions : definition.actions = .empty) (hshape : definition.shape = none) :
    definition.IsSound document.resources model where
  collections := by simp [ResourceDefinition.CollectionsResolve, hcollections, Dict.empty]
  actions := .of_forall_actions (by simp [hactions, Dict.empty])
  data := by simp [ResourceDefinition.DataMaps, hshape]

theorem exists_stubs (waiters : Option WaiterModel) :
    ∃ root, (store waiters).session.stubs SignatureTable.empty.oracle service 300 =
      .ok (some root) := by
  have hhas := @MemoryStore.has (store waiters) "kiln" ⟨model, some document, waiters⟩ document
    rfl rfl rfl
  refine hhas.stubs_of_sound rfl (SignatureTable.keyedByName_oracle .empty)
    SignatureTable.empty.total_oracle acyclic 300 (isSound rfl rfl rfl) rfl fun declared hd => ?_
  obtain rfl := List.mem_singleton.mp hd
  exact isSound rfl rfl rfl

end Kiln

namespace MemoryStore

variable {store : MemoryStore} {service : ServiceName}

theorem resourceDocument_eq (name : String) :
    store.session.resourceDocument name = (store.documents name).map (·.resources) := rfl

theorem stubs_of_not_registered (h : store.services.get? service.name = none) (oracle : Oracle)
    (limit : Nat) :
    store.session.stubs oracle service limit = .error (.serviceNotFound service.name) := by
  rw [Session.stubs, Session.resource, resourceDocument_eq, documents, h]
  rfl

theorem resourceDocument_of_registered {documents : ServiceDocuments}
    (h : store.services.get? service.name = some documents) :
    store.session.resourceDocument service.name = .ok documents.resources := by
  rw [resourceDocument_eq, MemoryStore.documents, h]
  rfl

/-- Two stores that have the same documents of a service, but for the waiter model. Their runs end
in one error, or both without classes, or they give the same classes but for the docstrings of
waits. All methods with their signatures, all attributes and all collections are there in both. -/
theorem withoutWaitDocs_eq_of_agree (store store' : MemoryStore) (service : ServiceName)
    (oracle : Oracle) (limit : Nat)
    (hagree : (store.services.get? service.name).map ServiceDocuments.withoutWaiters =
      (store'.services.get? service.name).map ServiceDocuments.withoutWaiters) :
    let run := store.session.stubs oracle service limit
    let run' := store'.session.stubs oracle service limit
    (∃ e, run = .error e ∧ run' = .error e) ∨ (run = .ok none ∧ run' = .ok none) ∨
      ∃ document root root',
        store.session.resourceDocument service.name = .ok (some document) ∧
        run = .ok (some root) ∧ run' = .ok (some root') ∧
        root.withoutWaitDocs document = root'.withoutWaitDocs document ∧
        root.undocumented = root'.undocumented := by
  intro run run'
  cases hs : store.services.get? service.name with
  | none =>
    rw [hs, Option.map_none, eq_comm, Option.map_eq_none_iff] at hagree
    exact .inl ⟨.serviceNotFound service.name, stubs_of_not_registered hs oracle limit,
      stubs_of_not_registered hagree oracle limit⟩
  | some documents =>
    rw [hs, Option.map_some, eq_comm, Option.map_eq_some_iff] at hagree
    obtain ⟨⟨model, resources, waiters⟩, hs', hsame⟩ := hagree
    obtain ⟨rfl, rfl⟩ : model = documents.model ∧ resources = documents.resources := by
      simpa [ServiceDocuments.withoutWaiters] using hsame
    have hdocument := resourceDocument_of_registered hs
    by_cases hdeclared : ∃ document, documents.resources = some document ∧ document.isEmpty = false
    · obtain ⟨document, hd, hne⟩ := hdeclared
      have hsame := (store'.has hs' hd hne).stubs_withWaiters
        (store.has hs hd hne) rfl oracle limit
      rcases alike_of_map_eq hsame with herror | hnone | ⟨root, root', hrun, hrun', hroot⟩
      · exact .inl herror
      · exact .inr (.inl hnone)
      · refine .inr (.inr ⟨document, root, root', by rw [hdocument, hd], hrun, hrun', hroot, ?_⟩)
        rw [← root.undocumented_withoutWaitDocs document, hroot,
          ServiceResource.undocumented_withoutWaitDocs]
    · have hempty : ∀ document, documents.resources = some document → document.isEmpty = true := by
        intro document hd
        by_contra hne
        exact hdeclared ⟨document, hd, by simpa using hne⟩
      exact .inr (.inl ⟨Session.stubs_of_undeclared hdocument hempty oracle limit,
        Session.stubs_of_undeclared (resourceDocument_of_registered hs') hempty oracle limit⟩)

/-- The kiln is there with its wait whether or not the service has waiters. -/
theorem withoutWaitDocs_eq_kiln : ∃ root root',
    (Kiln.store none).session.stubs SignatureTable.empty.oracle Kiln.service 300 =
      .ok (some root) ∧
    (Kiln.store (some Kiln.waiters)).session.stubs SignatureTable.empty.oracle Kiln.service 300 =
      .ok (some root') ∧
    root.withoutWaitDocs Kiln.document = root'.withoutWaitDocs Kiln.document ∧
    root.undocumented = root'.undocumented := by
  obtain ⟨root, hrun⟩ := Kiln.exists_stubs none
  rcases withoutWaitDocs_eq_of_agree (Kiln.store none) (Kiln.store (some Kiln.waiters)) Kiln.service
    SignatureTable.empty.oracle 300 rfl with
    ⟨e, he, -⟩ | ⟨hnone, -⟩ | ⟨document, root, root', hdocument, hrun, hrun', hwaits, hall⟩
  · cases hrun.symm.trans he
  · cases hrun.symm.trans hnone
  · obtain rfl : Kiln.document = document := Option.some.inj (Except.ok.inj hdocument)
    exact ⟨root, root', hrun, hrun', hwaits, hall⟩

end MemoryStore

end ResourceStubs
