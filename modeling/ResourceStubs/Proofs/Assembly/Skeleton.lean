import ResourceStubs.Assembly.Service
import ResourceStubs.Proofs.Assembly.Success

/-! What an oracle cannot change. The skeleton of the stub classes leaves out the signatures of the
methods of resources and all but the names of the filter and the batch actions of collections. Two
runs with oracles that answer have one skeleton or fail alike, and a run that succeeds with an
oracle that may fail has the skeleton of the run without any signatures. The proof runs both side by
side. The only errors that one run has by itself are those of its oracle. -/

namespace ResourceStubs

open Fallible

/-- Only the name of a method. -/
def Method.nameOnly (method : Method) : Method := .ofSignature method.name [] .nothing

/-- The class with only the names of its filter and its batch actions. These stand behind the method
for all elements and before those for a limit, the page size, the pages and the iteration. -/
def Collection.skeleton (collection : Collection) : Collection :=
  let fixed := collection.methods.length - 4
  { collection with
    methods := collection.methods.take 1
      ++ ((collection.methods.take fixed).drop 1).map Method.nameOnly
      ++ collection.methods.drop fixed }

/-- The class without the signatures of its methods. -/
def Resource.skeleton (resource : Resource) : Resource :=
  { resource with
    methods := resource.methods.map Method.withoutSignature
    collections := resource.collections.map Collection.skeleton }

/-- The classes without the signatures of the methods of resources. -/
def ServiceResource.skeleton (root : ServiceResource) : ServiceResource :=
  { root with
    methods := root.methods.map Method.withoutSignature
    collections := root.collections.map Collection.skeleton
    subResources := root.subResources.map Resource.skeleton }

theorem ServiceResource.skeleton_ofResource (body : Resource) (subResources : List Resource) :
    (ServiceResource.ofResource body subResources).skeleton =
      .ofResource body.skeleton (subResources.map Resource.skeleton) := rfl

/-! ### Collections -/

theorem name_knownOr {known : Dict Method} (h : KeyedByName known) (name : String)
    (returns : TypeHint) : (knownOr known name returns).name = name := by
  unfold knownOr
  cases hk : known.get? name with
  | none => rfl
  | some method => exact h _ _ hk

theorem skeleton_eq {collection : Collection} {all : Method} {between behind : List Method}
    (hmethods : collection.methods = all :: between ++ behind) (hbehind : behind.length = 4) :
    collection.skeleton =
      { collection with methods := all :: between.map Method.nameOnly ++ behind } := by
  have hfixed : (all :: between ++ behind).length - 4 = (all :: between).length := by
    rw [List.length_append, hbehind]
    omega
  simp only [Collection.skeleton, hmethods, hfixed, List.take_left, List.drop_left]
  rfl

theorem managerMethods_eq (known : Dict Method) (collection : CollectionSchema)
    (itself element : TypeHint) :
    managerMethods known collection itself element =
      .ofSignature "all" [Argument.self] itself
        :: (knownOr known "filter" itself
          :: collection.batchActions.map (knownOr known ·.name batchHint))
        ++ [.ofSignature "limit" [Argument.self, Argument.typed "count" .int] itself,
          .ofSignature "page_size" [Argument.self, Argument.typed "count" .int] itself,
          .ofSignature "pages" [Argument.self] (.iterator (.list element)),
          .ofSignature "__iter__" [Argument.self] (.iterator element)] := rfl

/-- The names of the methods between the fixed ones do not depend on what is known. -/
theorem between_nameOnly {known : Dict Method} (h : KeyedByName known)
    (collection : CollectionSchema) (itself : TypeHint) :
    (knownOr known "filter" itself
      :: collection.batchActions.map (knownOr known ·.name batchHint)).map Method.nameOnly =
      (Method.ofSignature "filter" [] .nothing)
        :: collection.batchActions.map fun action => .ofSignature action.name [] .nothing := by
  simp [Method.nameOnly, name_knownOr h, Function.comp_def]

section

variable {A B : Oracle} (hA : A.KeyedByName) (hB : B.KeyedByName) (htotal : B.Total)
include hA hB htotal

theorem ask_matches (asked : Option String) :
    Matches A.Raises (fun known known' => KeyedByName known ∧ KeyedByName known')
      (A.ask asked) (B.ask asked) := by
  obtain ⟨known', h'⟩ := htotal asked
  rw [h']
  cases h : A.ask asked with
  | error e => exact .inl ⟨asked, h⟩
  | ok known => exact ⟨hA asked known h, hB asked known' h'⟩

theorem collectionClass_matches (service : ServiceName) (parentName : String)
    (collection : CollectionSchema) (target : Target) :
    Matches A.Raises (fun c c' => c.skeleton = c'.skeleton)
      (collectionClass A service parentName collection target)
      (collectionClass B service parentName collection target) := by
  refine (ask_matches hA hB htotal (some _)).bind fun known known' hk => Matches.pure ?_
  rw [skeleton_eq (managerMethods_eq known ..) rfl, skeleton_eq (managerMethods_eq known' ..) rfl,
    between_nameOnly hk.1, between_nameOnly hk.2]

theorem collectionClasses_matches (resource : ResourceInstance) (service : ServiceName)
    (parentName : String) :
    Matches A.Raises (List.Forall₂ fun c c' => c.skeleton = c'.skeleton)
      (resource.collectionClasses A service parentName)
      (resource.collectionClasses B service parentName) :=
  Matches.mapM fun entry => collectionClass_matches hA hB htotal service parentName entry.1 entry.2

/-! ### Resources -/

omit hA hB htotal in
theorem methods_matches {own : Error → Prop} (resource : ResourceInstance) (service : ServiceName)
    (limit : Nat) (name stubName : String) {known known' : Dict Method}
    (hk : KeyedByName known) (hk' : KeyedByName known') :
    Matches own (List.Forall₂ fun m m' => m.withoutSignature = m'.withoutSignature)
      (resource.methods service limit name stubName known)
      (resource.methods service limit name stubName known') := by
  refine Matches.mapM fun entry => Matches.of_map_eq ?_
  rw [resource.method_withoutSignature _ _ _ _ hk, resource.method_withoutSignature _ _ _ _ hk']

theorem body_matches (resource : ResourceInstance) (service : ServiceName) (limit : Nat)
    (name stubName : String) {known known' : Dict Method}
    (hk : KeyedByName known) (hk' : KeyedByName known') :
    Matches A.Raises (fun r r' => r.skeleton = r'.skeleton)
      (resource.body A service limit name stubName known)
      (resource.body B service limit name stubName known') := by
  refine (methods_matches resource service limit name stubName hk hk').bind fun ms ms' hms => ?_
  refine (Matches.of_eq resource.dataAttributes).bind fun data data' hdata => ?_
  subst hdata
  refine (collectionClasses_matches hA hB htotal resource service name).bind fun cs cs' hcs => ?_
  have hskeleton := map_eq_map_of_forall₂ hcs
  -- the attributes that give access to collections are the same for classes of one skeleton
  have hattributes : cs.map (ResourceInstance.collectionAttribute service) =
      cs'.map (ResourceInstance.collectionAttribute service) := by
    have h := congrArg (List.map (ResourceInstance.collectionAttribute service)) hskeleton
    rwa [List.map_map, List.map_map] at h
  refine Matches.pure ?_
  simp only [Resource.skeleton, map_eq_map_of_forall₂ hms, hskeleton, hattributes]

theorem rootStub_matches (service : ServiceName) (limit : Nat) (root : ResourceInstance) :
    Matches A.Raises (fun r r' => r.skeleton = r'.skeleton)
      (Session.rootStub A service limit root) (Session.rootStub B service limit root) :=
  (ask_matches hA hB htotal none).bind fun _ _ hk =>
    body_matches hA hB htotal root service limit _ _ hk.1 hk.2

theorem toStub_matches (resource : ResourceInstance) (service : ServiceName) (limit : Nat)
    (name : String) :
    Matches A.Raises (fun r r' => r.skeleton = r'.skeleton)
      (resource.toStub A service limit name) (resource.toStub B service limit name) :=
  (ask_matches hA hB htotal (some name)).bind fun _ _ hk =>
    body_matches hA hB htotal resource service limit name name hk.1 hk.2

/-- Runs with two oracles, of which the second answers, have one skeleton unless the first oracle
fails. -/
theorem stubs_matches (session : Session) (service : ServiceName) (limit : Nat) :
    Matches A.Raises
      (fun root root' => root.map ServiceResource.skeleton = root'.map ServiceResource.skeleton)
      (session.stubs A service limit) (session.stubs B service limit) := by
  refine (Matches.of_eq (session.resource service)).bind fun root root' hroot => ?_
  subst hroot
  cases root with
  | none => exact Matches.pure rfl
  | some root =>
    refine (rootStub_matches hA hB htotal service limit root).bind fun body body' hbody => ?_
    refine (Matches.of_eq (session.subResources service root)).bind fun resources _ hresources => ?_
    subst hresources
    refine (Matches.mapM fun resource =>
      toStub_matches hA hB htotal resource service limit _).bind fun subs subs' hsubs => ?_
    refine Matches.pure ?_
    simp only [Option.map_some, ServiceResource.skeleton_ofResource, hbody,
      map_eq_map_of_forall₂ hsubs]

end

/-- What an oracle knows of signatures never gets into the skeleton, nor into the error of a run.
Oracles that answer every question have runs of one skeleton or with one error. An oracle that may
fail has the skeleton of the run without any signatures where its own run succeeds, and so has the
one over the documents of the service. -/
theorem stubs_noninterference (session : Session) (service : ServiceName) (limit : Nat) :
    (∀ A B : Oracle, A.KeyedByName → A.Total → B.KeyedByName → B.Total →
      (session.stubs A service limit).map (Option.map ServiceResource.skeleton) =
        (session.stubs B service limit).map (Option.map ServiceResource.skeleton)) ∧
    (∀ A : Oracle, A.KeyedByName → ∀ root, session.stubs A service limit = .ok root →
      ∃ root', session.stubs SignatureTable.empty.oracle service limit = .ok root' ∧
        root.map ServiceResource.skeleton = root'.map ServiceResource.skeleton) ∧
    (∀ source, ShapeSource.ofSession session service = .ok source → ∀ root,
      session.stubs source.oracle service limit = .ok root →
      ∃ root', session.stubs SignatureTable.empty.oracle service limit = .ok root' ∧
        root.map ServiceResource.skeleton = root'.map ServiceResource.skeleton) := by
  have hsilent := SignatureTable.keyedByName_oracle .empty
  have hfrom (A : Oracle) (hA : A.KeyedByName) :=
    stubs_matches hA hsilent SignatureTable.empty.total_oracle session service limit
  refine ⟨fun A B hA hAtotal hB hBtotal => ?_, fun A hA root hroot => ?_,
    fun source _ root hroot => ?_⟩
  · exact (stubs_matches hA hB hBtotal session service limit).map_eq hAtotal.not_raises
  · exact (hfrom A hA).exists_ok hroot
  · exact (hfrom source.oracle source.keyedByName_oracle).exists_ok hroot

namespace Shop

/-- A signature that the documents do not give. -/
def signatures : SignatureTable :=
  SignatureTable.empty.addMethod "Item"
    (.ofSignature "sell_item" [Argument.self, Argument.typed "price" .int] .bool)

theorem filled_signatures : signatures.Filled := .addMethod _ _ .empty

theorem stubs_skeleton :
    (store.session.stubs signatures.oracle service 120).map (Option.map ServiceResource.skeleton) =
      (store.session.stubs SignatureTable.empty.oracle service 120).map
        (Option.map ServiceResource.skeleton) ∧
    (∃ root root', store.session.stubs signatures.oracle service 120 = .ok root ∧
      store.session.stubs SignatureTable.empty.oracle service 120 = .ok root' ∧
      root.map ServiceResource.skeleton = root'.map ServiceResource.skeleton) ∧
    ∃ root root', store.session.stubs source.oracle service 120 = .ok root ∧
      store.session.stubs SignatureTable.empty.oracle service 120 = .ok root' ∧
      root.map ServiceResource.skeleton = root'.map ServiceResource.skeleton := by
  have hkeyed := SignatureTable.keyedByName_oracle filled_signatures
  obtain ⟨root, hroot⟩ := exists_stubs hkeyed signatures.total_oracle 120
  obtain ⟨derived, hderived⟩ := exists_stubs source.keyedByName_oracle total_source 120
  obtain ⟨hboth, hone, hsource⟩ := stubs_noninterference store.session service 120
  obtain ⟨silent, hsilent, hsame⟩ := hone _ hkeyed _ hroot
  obtain ⟨silent', hsilent', hsame'⟩ := hsource source rfl _ hderived
  refine ⟨?_, ⟨_, silent, hroot, hsilent, hsame⟩, ⟨_, silent', hderived, hsilent', hsame'⟩⟩
  exact hboth _ _ hkeyed signatures.total_oracle (SignatureTable.keyedByName_oracle .empty)
    SignatureTable.empty.total_oracle

end Shop

end ResourceStubs
