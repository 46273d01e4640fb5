import ResourceStubs.Proofs.Model.Hint
import ResourceStubs.Proofs.Oracle.Keyed
import ResourceStubs.Proofs.Stub.References

/-! What derived signatures refer to. The hint of a shape refers to no class at all. So a method
that is derived from the shapes of a service refers to classes of that service only: to the target
of an action, or to the collection that is filtered. -/

namespace ResourceStubs

open Fallible

namespace ServiceModel

variable {model : ServiceModel} {service : String}

theorem references_of_leafHint? {name : String} {shape : Shape} {hint : TypeHint}
    (h : leafHint? name shape = some hint) : hint.references = [] := by
  unfold leafHint? at h
  split at h <;> cases h <;> rfl

/-- The hint of a shape refers to no class. -/
theorem Hints.references {name : String} {hint : TypeHint} (h : model.Hints name hint) :
    hint.references = [] := by
  induction h with
  | leaf _ hleaf => exact references_of_leafHint? hleaf
  | list _ _ ih => exact ih
  | map _ _ _ ihKey ihValue => rw [TypeHint.references, ihKey, ihValue, List.append_nil]

theorem belongsTo_of_hint {name : String} {hint : TypeHint} (h : model.hint name = .ok hint) :
    hint.BelongsTo service :=
  .of_references_eq_nil (hints_of_hintFrom h).references

end ServiceModel

/-- All methods that are known belong to the service. -/
def MethodsBelongTo (service : String) (known : Dict Method) : Prop :=
  ∀ name method, known.get? name = some method → method.BelongsTo service

/-- All methods of every answer belong to the service. -/
def Oracle.BelongsTo (service : String) (oracle : Oracle) : Prop :=
  ∀ asked known, oracle.ask asked = .ok known → MethodsBelongTo service known

theorem SignatureTable.belongsTo_empty (service : String) : empty.oracle.BelongsTo service := by
  rintro (_ | className) known hknown name method hmethod
  all_goals
    obtain rfl := Except.ok.inj hknown
    cases hmethod

namespace ShapeSource

variable {source : ShapeSource} {service : String}

theorem methodsBelongTo_methodDict {methods : List Method}
    (h : ∀ method ∈ methods, method.BelongsTo service) :
    MethodsBelongTo service (methodDict methods) := by
  intro name method hmethod
  rw [get?_methodDict] at hmethod
  exact h method (List.mem_reverse.mp (List.mem_of_find?_eq_some hmethod))

/-! ### Arguments -/

theorem belongsTo_of_memberArgument {allOptional : Bool} {member : ServiceModel.Member}
    {given : Bool × Argument} (h : source.memberArgument allOptional member = .ok given) :
    given.2.BelongsTo service := by
  obtain ⟨hint, hhint, h⟩ := bind_eq_ok.mp h
  have hbelongs : (Argument.typed member.name hint).BelongsTo service :=
    Argument.belongsTo_typed (ServiceModel.belongsTo_of_hint hhint) _
  dsimp only at h
  split at h
  all_goals
    obtain rfl := pure_eq_ok.mp h
    exact hbelongs

theorem mem_keywordArguments {arguments : List (Bool × Argument)} {argument : Argument}
    (h : argument ∈ keywordArguments arguments) :
    argument = Argument.keywordMark ∨ argument ∈ arguments.map Prod.snd := by
  rw [keywordArguments] at h
  split at h
  next => cases h
  next =>
    rcases List.mem_cons.mp h with rfl | h
    · exact .inl rfl
    · rcases List.mem_append.mp h with h | h
      all_goals exact .inr (List.map_subset _ (List.filter_subset_self _) h)

theorem belongsTo_of_inputArguments {operation : String} {params : List Binding}
    {allOptional : Bool} {arguments : List Argument}
    (h : source.inputArguments operation params allOptional = .ok arguments) :
    ∀ argument ∈ arguments, argument.BelongsTo service := by
  obtain ⟨called, -, h⟩ := bind_eq_ok.mp h
  dsimp only at h
  split at h
  next =>
    obtain rfl := pure_eq_ok.mp h
    exact List.forall_mem_singleton.mpr Argument.belongsTo_self
  next =>
    obtain ⟨members, -, h⟩ := bind_eq_ok.mp h
    obtain ⟨given, hgiven, h⟩ := bind_eq_ok.mp h
    obtain rfl := pure_eq_ok.mp h
    refine List.forall_mem_cons.mpr ⟨Argument.belongsTo_self, fun argument hmem => ?_⟩
    rcases mem_keywordArguments hmem with rfl | hmem
    · exact Argument.belongsTo_keywordMark
    · obtain ⟨entry, hentry, rfl⟩ := List.mem_map.mp hmem
      obtain ⟨member, -, hmember⟩ := exists_of_mem_mapM hgiven hentry
      exact belongsTo_of_memberArgument hmember

/-! ### Methods -/

theorem belongsTo_of_outputHint {operation : String} {hint : TypeHint}
    (h : source.outputHint operation = .ok hint) : hint.BelongsTo service := by
  obtain ⟨called, -, h⟩ := bind_eq_ok.mp h
  split at h
  next => exact ServiceModel.belongsTo_of_hint h
  next =>
    obtain rfl := pure_eq_ok.mp h
    exact .of_references_eq_nil rfl

theorem belongsTo_of_actionMethod {name : String} {definition : ActionDefinition} {method : Method}
    (h : source.actionMethod name definition = .ok (some method)) :
    method.BelongsTo source.serviceName := by
  obtain ⟨-, hfound⟩ | ⟨request, arguments, returns, -, hfound, harguments, hreturns⟩ :=
    source.actionMethod_cases h
  · cases hfound
  · obtain rfl := Option.some.inj hfound
    refine Method.belongsTo_ofSignature (belongsTo_of_inputArguments harguments) ?_
    split at hreturns
    next =>
      rw [hreturns]
      exact TypeHint.belongsTo_hint _
    next => exact belongsTo_of_outputHint hreturns

theorem belongsTo_of_waiterMethod {declared : String × WaiterDefinition} {method : Method}
    (h : source.waiterMethod declared = .ok (some method)) : method.BelongsTo service := by
  rw [waiterMethod] at h
  split at h
  next => cases h
  next config =>
    obtain ⟨arguments, harguments, h⟩ := bind_eq_ok.mp h
    obtain rfl := Option.some.inj (pure_eq_ok.mp h)
    exact Method.belongsTo_ofSignature (belongsTo_of_inputArguments harguments)
      (.of_references_eq_nil rfl)

theorem belongsTo_of_filterMethod {className : String} {definition : ActionDefinition}
    {method : Method} (h : source.filterMethod className definition = .ok (some method)) :
    method.BelongsTo source.serviceName := by
  rw [filterMethod] at h
  split at h
  next => cases h
  next request =>
    obtain ⟨arguments, harguments, h⟩ := bind_eq_ok.mp h
    obtain rfl := Option.some.inj (pure_eq_ok.mp h)
    exact Method.belongsTo_ofSignature (belongsTo_of_inputArguments harguments)
      (TypeHint.belongsTo_reference _ _)

theorem belongsTo_of_batchMethod {declared : String × ActionDefinition} {method : Method}
    (h : source.batchMethod declared = .ok (some method)) : method.BelongsTo service := by
  rw [batchMethod] at h
  split at h
  next => cases h
  next request =>
    obtain ⟨arguments, harguments, h⟩ := bind_eq_ok.mp h
    obtain ⟨operation, -, h⟩ := bind_eq_ok.mp h
    dsimp only at h
    split at h
    next output =>
      obtain ⟨returns, hreturns, h⟩ := bind_eq_ok.mp h
      obtain rfl := Option.some.inj (pure_eq_ok.mp h)
      obtain ⟨answer, hanswer, rfl⟩ := map_eq_ok.mp hreturns
      exact Method.belongsTo_ofSignature (belongsTo_of_inputArguments harguments)
        (ServiceModel.belongsTo_of_hint hanswer).list
    next =>
      obtain ⟨returns, hreturns, h⟩ := bind_eq_ok.mp h
      obtain rfl := pure_eq_ok.mp hreturns
      obtain rfl := Option.some.inj (pure_eq_ok.mp h)
      exact Method.belongsTo_ofSignature (belongsTo_of_inputArguments harguments)
        (.of_references_eq_nil rfl)

/-! ### Answers -/

/-- What a traversal finds belongs to the service if each of its steps finds nothing else. -/
theorem belongsTo_of_mem_found {α : Type} {find : α → Except Error (Option Method)}
    (hfind : ∀ x method, find x = .ok (some method) → method.BelongsTo service) {xs : List α}
    {found : List (Option Method)} (h : xs.mapM find = .ok found) :
    ∀ method ∈ found.filterMap id, method.BelongsTo service := by
  intro method hmem
  obtain ⟨_, hmem, rfl⟩ := List.mem_filterMap.mp hmem
  obtain ⟨x, -, hx⟩ := exists_of_mem_mapM h hmem
  exact hfind x method hx

theorem belongsTo_loadMethods (definition : ResourceDefinition) :
    ∀ method ∈ loadMethods definition, method.BelongsTo service := by
  intro method hmem
  rw [loadMethods] at hmem
  split at hmem
  next =>
    obtain ⟨name, -, rfl⟩ := List.mem_map.mp hmem
    exact Method.belongsTo_of_self (.of_references_eq_nil rfl)
  next => cases hmem

theorem belongsTo_of_definitionMethods {definition : ResourceDefinition} {known : Dict Method}
    (h : source.definitionMethods definition = .ok known) :
    MethodsBelongTo source.serviceName known := by
  obtain ⟨actions, hactions, h⟩ := bind_eq_ok.mp h
  obtain ⟨waiters, hwaiters, h⟩ := bind_eq_ok.mp h
  obtain rfl := pure_eq_ok.mp h
  refine methodsBelongTo_methodDict ?_
  simp only [List.forall_mem_append]
  exact ⟨⟨belongsTo_loadMethods definition,
    belongsTo_of_mem_found (fun _ _ => belongsTo_of_actionMethod) hactions⟩,
    belongsTo_of_mem_found (fun _ _ => belongsTo_of_waiterMethod) hwaiters⟩

theorem belongsTo_of_collectionMethods {className : String} {definition : ActionDefinition}
    {known : Dict Method} (h : source.collectionMethods className definition = .ok known) :
    MethodsBelongTo source.serviceName known := by
  obtain ⟨filter?, hfilter, h⟩ := bind_eq_ok.mp h
  obtain ⟨batch, hbatch, h⟩ := bind_eq_ok.mp h
  obtain rfl := pure_eq_ok.mp h
  refine methodsBelongTo_methodDict (List.forall_mem_append.mpr ⟨fun method hmem => ?_,
    belongsTo_of_mem_found (fun _ _ => belongsTo_of_batchMethod) hbatch⟩)
  obtain rfl := Option.mem_toList.mp hmem
  exact belongsTo_of_filterMethod hfilter

/-- All that the shapes of a service tell refers to classes of the service. -/
theorem belongsTo_oracle (source : ShapeSource) : source.oracle.BelongsTo source.serviceName := by
  rintro (_ | className) known h
  · change source.rootMethods = .ok known at h
    rw [rootMethods] at h
    split at h
    next => exact belongsTo_of_definitionMethods h
    next =>
      obtain rfl := Except.ok.inj h
      exact fun _ _ hmethod => by cases hmethod
  · change source.methodsOf className = .ok known at h
    rw [methodsOf] at h
    split at h
    next => exact belongsTo_of_definitionMethods h
    next =>
      split at h
      next => exact belongsTo_of_collectionMethods h
      next =>
        obtain rfl := Except.ok.inj h
        exact fun _ _ hmethod => by cases hmethod

end ShapeSource

end ResourceStubs
