import ResourceStubs.Proofs.Schema.Resolve

/-! The public callables of a schema. Under each name the last callable of that name counts, and
their names increase strictly. The names that a definition offers are given without the schema: from
its actions, waiters, related resources and load, and the list of related resources where there is
any of these. -/

namespace ResourceStubs

namespace ResourceDefinition

/-- A name under which the definition declares something to call. -/
inductive Declares (definition : ResourceDefinition) : String → Prop
  | action {declared : String} : declared ∈ definition.actions.keys →
    Declares definition (Naming.snakeCase declared)
  | waiter {declared : String} : declared ∈ definition.waiters.keys →
    Declares definition ("wait_until_" ++ Naming.snakeCase declared)
  | related {name : String} {target : Target} : (name, target) ∈ definition.has.entries →
    (∀ identifier ∈ target.identifiers, identifier.source ≠ "data") → Declares definition name
  | load : definition.load.isSome → Declares definition "load"
  | reload : definition.load.isSome → Declares definition "reload"

/-- A name under which something can be called: a declared one, or that of the list of related
resources if anything is declared. -/
def Offers (definition : ResourceDefinition) (name : String) : Prop :=
  definition.Declares name ∨
    name = "get_available_subresources" ∧ ∃ declared, definition.Declares declared

/-- The public callables of the definition, whatever the name and the collections of its schema. -/
def publicCallables (definition : ResourceDefinition) : Dict Callable :=
  (Schema.outline "" definition).publicCallables

/-- The public callables of the definition, sorted by name. -/
def sortedCallables (definition : ResourceDefinition) : List (String × Callable) :=
  (Schema.outline "" definition).sortedCallables

end ResourceDefinition

theorem Target.requiresData_eq_false {target : Target} :
    target.requiresData = false ↔
      ∀ identifier ∈ target.identifiers, identifier.source ≠ "data" := by
  simp [Target.requiresData, Binding.isData]

namespace Schema

variable (schema : Schema) (name : String) (definition : ResourceDefinition)

theorem mem_loads {callable : Callable} :
    callable ∈ schema.loads ↔
      ∃ load, schema.load = some load ∧
        (callable = .load "load" load ∨ callable = .load "reload" load) := by
  unfold loads loadNames
  cases schema.load <;> simp

/-- The callables of an outline are those of the definition, kind by kind. -/
theorem mem_declaredCallables_outline {callable : Callable} :
    callable ∈ (outline name definition).declaredCallables ↔
      (∃ declared ∈ definition.actions.entries, actionOf declared = callable) ∨
      (∃ declared ∈ definition.waiters.entries, waiterOf declared = callable) ∨
      (∃ related ∈ definition.has.entries, related.2.requiresData = false ∧
        .subResource related.1 related.2 = callable) ∨
      ∃ load, definition.load = some load ∧
        (callable = .load "load" load ∨ callable = .load "reload" load) := by
  rw [declaredCallables, List.mem_append, List.mem_append, List.mem_append, mem_loads]
  simp [outline, or_assoc, and_assoc]

theorem exists_declaredCallables_outline_iff {called : String} :
    (∃ callable ∈ (outline name definition).declaredCallables, callable.name = called) ↔
      definition.Declares called := by
  constructor
  · rintro ⟨callable, hc, rfl⟩
    rcases (mem_declaredCallables_outline name definition).mp hc with
      ⟨declared, hd, rfl⟩ | ⟨declared, hd, rfl⟩ | ⟨related, hr, hdata, rfl⟩ | ⟨load, hl, rfl | rfl⟩
    · exact .action (List.mem_map_of_mem hd)
    · exact .waiter (List.mem_map_of_mem hd)
    · exact .related hr (Target.requiresData_eq_false.mp hdata)
    · exact .load (by simp [hl])
    · exact .reload (by simp [hl])
  · intro h
    cases h with
    | action hd =>
      obtain ⟨declared, hm, rfl⟩ := List.mem_map.mp hd
      exact ⟨actionOf declared, (mem_declaredCallables_outline ..).mpr (.inl ⟨_, hm, rfl⟩), rfl⟩
    | waiter hd =>
      obtain ⟨declared, hm, rfl⟩ := List.mem_map.mp hd
      exact ⟨waiterOf declared, (mem_declaredCallables_outline ..).mpr (.inr (.inl ⟨_, hm, rfl⟩)),
        rfl⟩
    | related hr hdata =>
      exact ⟨_, (mem_declaredCallables_outline ..).mpr
        (.inr (.inr (.inl ⟨_, hr, Target.requiresData_eq_false.mpr hdata, rfl⟩))), rfl⟩
    | load hl =>
      obtain ⟨load, hl⟩ := Option.isSome_iff_exists.mp hl
      exact ⟨_, (mem_declaredCallables_outline ..).mpr
        (.inr (.inr (.inr ⟨load, hl, .inl rfl⟩))), rfl⟩
    | reload hl =>
      obtain ⟨load, hl⟩ := Option.isSome_iff_exists.mp hl
      exact ⟨_, (mem_declaredCallables_outline ..).mpr
        (.inr (.inr (.inr ⟨load, hl, .inr rfl⟩))), rfl⟩

theorem mem_callables {callable : Callable} :
    callable ∈ schema.callables ↔ callable ∈ schema.declaredCallables ∨
      (∃ declared, declared ∈ schema.declaredCallables) ∧
        callable = .availableSubresources "get_available_subresources" schema.subResourceNames := by
  rw [callables, List.mem_append]
  cases schema.declaredCallables <;> simp [availableSubresources]

/-- The callables of an outline have the names that the definition offers. -/
theorem exists_callables_outline_iff {called : String} :
    (∃ callable ∈ (outline name definition).callables, callable.name = called) ↔
      definition.Offers called := by
  have hdecl : (∃ declared, definition.Declares declared) ↔
      ∃ declared, declared ∈ (outline name definition).declaredCallables := by
    simp only [← exists_declaredCallables_outline_iff name definition]
    exact ⟨fun ⟨_, c, hc, _⟩ => ⟨c, hc⟩, fun ⟨c, hc⟩ => ⟨_, c, hc, rfl⟩⟩
  rw [ResourceDefinition.Offers, ← exists_declaredCallables_outline_iff name definition, hdecl]
  simp only [mem_callables]
  constructor
  · rintro ⟨callable, hc | ⟨hd, rfl⟩, hn⟩
    · exact .inl ⟨callable, hc, hn⟩
    · exact .inr ⟨hn.symm, hd⟩
  · rintro (⟨callable, hc, hn⟩ | ⟨rfl, hd⟩)
    · exact ⟨callable, .inl hc, hn⟩
    · exact ⟨_, .inr ⟨hd, rfl⟩, rfl⟩

/-! ### The public callables -/

/-- Under a name stands the last of the public callables of that name. -/
theorem get?_publicCallables (called : String) :
    schema.publicCallables.get? called =
      (schema.callables.filter (·.isPublic)).reverse.find? (·.name == called) :=
  Dict.get?_ofList_named _ _ _

/-- A public callable is the last of all callables of its name: none of these is private. -/
theorem find?_of_get?_publicCallables {called : String} {callable : Callable}
    (h : schema.publicCallables.get? called = some callable) :
    schema.callables.reverse.find? (·.name == called) = some callable := by
  rw [get?_publicCallables, ← List.filter_reverse, List.find?_filter] at h
  have hfound : callable.isPublic = true ∧ callable.name = called := by
    simpa using List.find?_some h
  have hsame (other : Callable) :
      decide (other.isPublic = true ∧ (other.name == called) = true) = (other.name == called) := by
    by_cases hn : other.name = called
    · have ho : other.isPublic = callable.isPublic := by
        rw [Callable.isPublic, Callable.isPublic, hn, hfound.2]
      simp [ho, hfound.1, hn]
    · simp [hn]
  rwa [funext hsame] at h

theorem mem_keys_publicCallables {called : String} :
    called ∈ schema.publicCallables.keys ↔
      called.toList.head? ≠ some '_' ∧ ∃ callable ∈ schema.callables, callable.name = called := by
  rw [publicCallables, Dict.mem_keys_ofList_named]
  simp only [List.mem_filter, Callable.isPublic, bne_iff_ne, and_assoc]
  constructor
  · rintro ⟨callable, hc, hp, rfl⟩
    exact ⟨hp, callable, hc, rfl⟩
  · rintro ⟨hp, callable, hc, rfl⟩
    exact ⟨callable, hc, hp, rfl⟩

theorem name_of_mem_publicCallables {called : String} {callable : Callable}
    (h : (called, callable) ∈ schema.publicCallables.entries) : callable.name = called := by
  rw [← Dict.get?_eq_some_iff, get?_publicCallables] at h
  simpa using List.find?_some h

theorem mem_sortedCallables {entry : String × Callable} :
    entry ∈ schema.sortedCallables ↔ entry ∈ schema.publicCallables.entries :=
  List.mem_mergeSort

/-- The names of the sorted callables increase strictly. -/
theorem sortedCallables_pairwise : (schema.sortedCallables.map Prod.fst).Pairwise (· < ·) := by
  have hsorted : (schema.sortedCallables.map Prod.fst).Pairwise (· ≤ ·) := by
    rw [List.pairwise_map]
    have h := @List.pairwise_mergeSort _ (fun a b : String × Callable => decide (a.1 ≤ b.1))
      (fun a b c hab hbc => by
        simpa using String.le_trans (by simpa using hab) (by simpa using hbc))
      (fun a b => by simpa using String.le_total a.1 b.1) schema.publicCallables.entries
    simpa [sortedCallables] using h
  have hnodup : (schema.sortedCallables.map Prod.fst).Nodup :=
    ((List.mergeSort_perm _ _).map Prod.fst).nodup_iff.mpr schema.publicCallables.nodup
  refine hsorted.imp₂ (fun a b hle hne => ?_) hnodup
  exact String.not_le.mp fun hge => hne (String.le_antisymm hle hge)

theorem mem_sortedCallables_names {called : String} :
    called ∈ schema.sortedCallables.map Prod.fst ↔ called ∈ schema.publicCallables.keys :=
  ((List.mergeSort_perm _ _).map Prod.fst).mem_iff

/-- The names of the public callables of an outline are the offered ones that are not private. -/
theorem mem_sortedCallables_outline {called : String} :
    called ∈ (outline name definition).sortedCallables.map Prod.fst ↔
      called.toList.head? ≠ some '_' ∧ definition.Offers called := by
  rw [mem_sortedCallables_names, mem_keys_publicCallables, exists_callables_outline_iff]

end Schema

end ResourceStubs
