import ResourceStubs.Proofs.Oracle.Keyed
import ResourceStubs.Proofs.Schema.Callables

/-! Where the derived signature of a method comes from. The public callables and the derived methods
of a definition are enumerated in different orders, and in both the last of a name counts. Loads
come last but one among the callables and first among the methods, and an action without a request
or a wait without a waiter has no method at all. So a method may have the signature of one callable
and the documentation of another, and it is told here exactly when it does. -/

namespace ResourceStubs

open Fallible

/-- The actions and waits of the definition, in the order of their declaration. -/
def ResourceDefinition.requests (definition : ResourceDefinition) : List Callable :=
  definition.actions.entries.map Schema.actionOf ++ definition.waiters.entries.map Schema.waiterOf

namespace ShapeSource

variable (source : ShapeSource)

/-- The definition that a question is about: that of a resource type, or of the service resource. -/
def definition? : Option String → Option ResourceDefinition
  | some name => source.document.resources.get? name
  | none => source.document.service

theorem ask_eq {asked : Option String} {definition : ResourceDefinition}
    (h : source.definition? asked = some definition) :
    source.oracle.ask asked = source.definitionMethods definition := by
  cases asked with
  | none =>
    change source.rootMethods = _
    rw [rootMethods, show source.document.service = some definition from h]
  | some name =>
    change source.methodsOf name = _
    rw [methodsOf, show source.document.resources.get? name = some definition from h]

/-- The callable calls an operation that a signature can be derived from: an action that has a
request, or a wait for which the service has a waiter. -/
def calls : Callable → Bool
  | .action _ definition => definition.request.isSome
  | .waiter _ _ definition => (source.waiters.bind (·.waiters.get? definition.waiterName)).isSome
  | _ => false

/-- The method that is derived for a callable from nothing but itself. -/
def ownMethod : Callable → Except Error (Option Method)
  | .action name definition => source.actionMethod name definition
  | .waiter _ declaredName definition => source.waiterMethod (declaredName, definition)
  | .load name _ => .ok (some (.ofSignature name [Argument.self] .nothing))
  | .subResource _ _ | .availableSubresources _ _ => .ok none

/-- The callables of a definition whose methods are put into its map, in this order. -/
def signed (definition : ResourceDefinition) : List Callable :=
  (Schema.outline "" definition).loads ++ definition.requests.filter source.calls

/-- The callable that the method of a name is derived for. -/
def origin? (definition : ResourceDefinition) (called : String) : Option Callable :=
  (source.signed definition).reverse.find? (·.name == called)

/-- The method is derived for the callable and has its name. -/
def Signs (callable : Callable) (method : Method) : Prop :=
  source.ownMethod callable = .ok (some method) ∧ method.name = callable.name

variable {source} {definition : ResourceDefinition}

/-! ### The map of derived methods -/

theorem ownMethod_actionOf {declared : String × ActionDefinition} {found : Option Method}
    (h : source.ownMethod (Schema.actionOf declared) = .ok found) :
    found.map (·.name) =
      if source.calls (Schema.actionOf declared) then some (Schema.actionOf declared).name
      else none := by
  change source.actionMethod (Naming.snakeCase declared.1) declared.2 = .ok found at h
  change _ = if declared.2.request.isSome then some (Naming.snakeCase declared.1) else none
  obtain ⟨hrequest, rfl⟩ | ⟨request, arguments, returns, hrequest, rfl, -⟩ :=
    source.actionMethod_cases h
  all_goals
    rw [hrequest]
    rfl

theorem ownMethod_waiterOf {declared : String × WaiterDefinition} {found : Option Method}
    (h : source.ownMethod (Schema.waiterOf declared) = .ok found) :
    found.map (·.name) =
      if source.calls (Schema.waiterOf declared) then some (Schema.waiterOf declared).name
      else none := by
  change source.waiterMethod declared = .ok found at h
  change _ = if (source.waiters.bind (·.waiters.get? declared.2.waiterName)).isSome then
    some (Schema.waiterName declared.1) else none
  rw [waiterMethod] at h
  cases hw : source.waiters.bind (·.waiters.get? declared.2.waiterName) with
  | none =>
    rw [hw] at h
    rw [← pure_eq_ok.mp h]
    rfl
  | some config =>
    rw [hw] at h
    obtain ⟨arguments, _, h⟩ := bind_eq_ok.mp h
    rw [← pure_eq_ok.mp h]
    rfl

/-- An action or wait has a method exactly if it calls an operation, under its own name. -/
theorem name_of_ownMethod {callable : Callable} (hc : callable ∈ definition.requests)
    {found : Option Method} (h : source.ownMethod callable = .ok found) :
    found.map (·.name) = if source.calls callable then some callable.name else none := by
  rcases List.mem_append.mp hc with hc | hc
  · obtain ⟨declared, -, rfl⟩ := List.mem_map.mp hc
    exact ownMethod_actionOf h
  · obtain ⟨declared, -, rfl⟩ := List.mem_map.mp hc
    exact ownMethod_waiterOf h

theorem forall₂_signs_requests {callables : List Callable}
    (hc : ∀ callable ∈ callables, callable ∈ definition.requests) {found : List (Option Method)}
    (h : List.Forall₂ (fun callable method => source.ownMethod callable = .ok method)
      callables found) :
    List.Forall₂ source.Signs (callables.filter source.calls) (found.filterMap id) := by
  induction h with
  | nil => exact .nil
  | @cons callable method callables found hown _ ih =>
    have hrest := ih fun other ho => hc other (List.mem_cons_of_mem _ ho)
    have hname := name_of_ownMethod (hc callable List.mem_cons_self) hown
    by_cases hcalls : source.calls callable = true
    · rw [if_pos hcalls] at hname
      obtain ⟨method, rfl, hm⟩ := Option.map_eq_some_iff.mp hname
      rw [List.filter_cons_of_pos hcalls]
      exact .cons ⟨hown, hm⟩ hrest
    · rw [if_neg hcalls] at hname
      obtain rfl := Option.map_eq_none_iff.mp hname
      rw [List.filter_cons_of_neg hcalls]
      exact hrest

theorem forall₂_signs_loads :
    List.Forall₂ source.Signs (Schema.outline "" definition).loads (loadMethods definition) := by
  unfold Schema.loads loadMethods
  simp only [Schema.outline]
  cases definition.load with
  | none => exact .nil
  | some load => exact .cons ⟨rfl, rfl⟩ (.cons ⟨rfl, rfl⟩ .nil)

/-- The map of a definition is filled with the methods of its signed callables, in their order. -/
theorem definitionMethods_eq_ok {methods : Dict Method}
    (h : source.definitionMethods definition = .ok methods) :
    ∃ entries, methods = methodDict entries ∧
      List.Forall₂ source.Signs (source.signed definition) entries := by
  obtain ⟨actions, ha, h⟩ := bind_eq_ok.mp h
  obtain ⟨waiters, hw, h⟩ := bind_eq_ok.mp h
  refine ⟨_, (pure_eq_ok.mp h).symm, ?_⟩
  have hactions : List.Forall₂ (fun callable method => source.ownMethod callable = .ok method)
      (definition.actions.entries.map Schema.actionOf) actions :=
    List.forall₂_map_left_iff.mpr (mapM_eq_ok.mp ha)
  have hwaiters : List.Forall₂ (fun callable method => source.ownMethod callable = .ok method)
      (definition.waiters.entries.map Schema.waiterOf) waiters :=
    List.forall₂_map_left_iff.mpr (mapM_eq_ok.mp hw)
  have hrequests := forall₂_signs_requests (fun _ hc => hc) (List.rel_append hactions hwaiters)
  rw [List.filterMap_append] at hrequests
  rw [List.append_assoc]
  exact List.rel_append forall₂_signs_loads hrequests

theorem find?_of_forall₂_signs {callables : List Callable} {methods : List Method}
    (h : List.Forall₂ source.Signs callables methods) (called : String) :
    Option.Rel source.Signs (callables.find? (·.name == called))
      (methods.find? (·.name == called)) := by
  induction h with
  | nil => exact .none
  | @cons callable method _ _ hsigns _ ih =>
    by_cases hn : callable.name = called
    · rw [List.find?_cons_of_pos (by simpa using hn),
        List.find?_cons_of_pos (by simpa [hsigns.2] using hn)]
      exact .some hsigns
    · rw [List.find?_cons_of_neg (by simpa using hn),
        List.find?_cons_of_neg (by simpa [hsigns.2] using hn)]
      exact ih

/-- The map has a method under a name exactly if the name has an origin, and it is that of the
origin. -/
theorem rel_get?_definitionMethods {methods : Dict Method}
    (h : source.definitionMethods definition = .ok methods) (called : String) :
    Option.Rel source.Signs (source.origin? definition called) (methods.get? called) := by
  obtain ⟨entries, rfl, hsigns⟩ := definitionMethods_eq_ok h
  rw [get?_methodDict]
  exact find?_of_forall₂_signs (List.forall₂_reverse_iff.mpr hsigns) called

theorem get?_of_origin? {methods : Dict Method}
    (h : source.definitionMethods definition = .ok methods) {called : String} {origin : Callable}
    (ho : source.origin? definition called = some origin) :
    ∃ method, methods.get? called = some method ∧ source.ownMethod origin = .ok (some method) := by
  have hrel := rel_get?_definitionMethods h called
  rw [ho] at hrel
  generalize methods.get? called = found at hrel
  cases hrel with
  | some hsigns => exact ⟨_, rfl, hsigns.1⟩

theorem exists_origin?_of_get? {methods : Dict Method}
    (h : source.definitionMethods definition = .ok methods) {called : String} {method : Method}
    (hm : methods.get? called = some method) :
    ∃ origin, source.origin? definition called = some origin ∧
      source.ownMethod origin = .ok (some method) := by
  have hrel := rel_get?_definitionMethods h called
  rw [hm] at hrel
  generalize source.origin? definition called = origin at hrel
  cases hrel with
  | some hsigns => exact ⟨_, rfl, hsigns.1⟩

/-! ### The origin and the public callable -/

/-- The method of a name comes from the last action or wait of the name that calls an operation, or
else from a load. -/
theorem origin?_eq (called : String) :
    source.origin? definition called =
      (definition.requests.reverse.find? fun c => source.calls c && c.name == called).or
        ((Schema.outline "" definition).loads.reverse.find? (·.name == called)) := by
  rw [origin?, signed, List.reverse_append, List.find?_append, ← List.filter_reverse,
    List.find?_filter]
  simp only [Bool.decide_and, Bool.decide_eq_true]

/-- Behind the actions and waits stand only callables without an operation to derive a signature
from. -/
theorem exists_callables_eq (source : ShapeSource) (definition : ResourceDefinition) :
    ∃ rest, (Schema.outline "" definition).callables = definition.requests ++ rest ∧
      ∀ callable ∈ rest, source.calls callable = false := by
  have hcallables : (Schema.outline "" definition).callables =
      definition.requests ++ ((Schema.outline "" definition).subResources ++
        ((Schema.outline "" definition).loads ++
          if (Schema.outline "" definition).declaredCallables.isEmpty then []
          else [.availableSubresources Schema.availableSubresources
            (Schema.outline "" definition).subResourceNames])) := by
    rw [Schema.callables, Schema.declaredCallables, List.append_assoc, List.append_assoc]
    rfl
  refine ⟨_, hcallables, fun callable hc => ?_⟩
  rcases List.mem_append.mp hc with hc | hc
  · obtain ⟨related, -, rfl⟩ := List.mem_map.mp hc
    rfl
  rcases List.mem_append.mp hc with hc | hc
  · obtain ⟨load, -, rfl | rfl⟩ := (Schema.mem_loads _).mp hc <;> rfl
  split at hc
  · exact (List.not_mem_nil hc).elim
  · rw [List.mem_singleton.mp hc]
    rfl

/-- A public callable that calls an operation is the last action or wait of its name. -/
theorem find?_requests {called : String} {callable : Callable}
    (h : definition.publicCallables.get? called = some callable)
    (hcalls : source.calls callable = true) :
    definition.requests.reverse.find? (·.name == called) = some callable := by
  have hlast := Schema.find?_of_get?_publicCallables _ h
  obtain ⟨rest, hcallables, hrest⟩ := source.exists_callables_eq definition
  rw [hcallables, List.reverse_append, List.find?_append, Option.or_eq_some_iff] at hlast
  rcases hlast with hlast | ⟨-, hlast⟩
  · have hmem := List.mem_reverse.mp (List.mem_of_find?_eq_some hlast)
    rw [hrest callable hmem] at hcalls
    cases hcalls
  · exact hlast

/-- Where a load has the name of a public callable, it is that callable. -/
theorem eq_of_find?_loads {called : String} {callable load : Callable}
    (h : definition.publicCallables.get? called = some callable)
    (hload : (Schema.outline "" definition).loads.reverse.find? (·.name == called) = some load) :
    load = callable := by
  have hlast := Schema.find?_of_get?_publicCallables _ h
  have hname : load.name = called := by simpa using List.find?_some hload
  rw [Schema.callables, List.reverse_append, List.find?_append, Option.or_eq_some_iff] at hlast
  rcases hlast with hlast | ⟨-, hlast⟩
  · -- the list of related resources has another name than a load
    obtain ⟨definition', -, hl⟩ :=
      (Schema.mem_loads _).mp (List.mem_reverse.mp (List.mem_of_find?_eq_some hload))
    have hmem := List.mem_reverse.mp (List.mem_of_find?_eq_some hlast)
    have hcalled : callable.name = called := by simpa using List.find?_some hlast
    split at hmem
    · exact (List.not_mem_nil hmem).elim
    · rw [List.mem_singleton.mp hmem, ← hname] at hcalled
      rcases hl with rfl | rfl
      · exact absurd (show Schema.availableSubresources = "load" from hcalled) (by decide)
      · exact absurd (show Schema.availableSubresources = "reload" from hcalled) (by decide)
  · rw [Schema.declaredCallables, List.reverse_append, List.find?_append, hload] at hlast
    exact Option.some.inj hlast

/-- No other action or wait gives its method to the name of the callable: it calls an operation
itself, or no action or wait of its name does. -/
def Undisputed (source : ShapeSource) (definition : ResourceDefinition) (callable : Callable) :
    Prop :=
  source.calls callable = true ∨
    ∀ other ∈ definition.requests, other.name = callable.name → source.calls other = false

/-- A name that is disputed has another action or wait than its callable for its origin. -/
theorem exists_origin?_of_not_undisputed {called : String} {callable : Callable}
    (h : definition.publicCallables.get? called = some callable)
    (hdisputed : ¬source.Undisputed definition callable) :
    ∃ origin ∈ definition.requests,
      source.origin? definition called = some origin ∧ origin ≠ callable := by
  obtain rfl : callable.name = called :=
    Schema.name_of_mem_publicCallables _ (Dict.get?_eq_some_iff.mp h)
  simp only [Undisputed, not_or, not_forall, Bool.not_eq_false] at hdisputed
  obtain ⟨hcalls, other, hmem, hname, hother⟩ := hdisputed
  have hsome : (definition.requests.reverse.find? fun c =>
      source.calls c && c.name == callable.name).isSome :=
    List.find?_isSome.mpr ⟨other, List.mem_reverse.mpr hmem, by simp [hname, hother]⟩
  obtain ⟨origin, hfound⟩ := Option.isSome_iff_exists.mp hsome
  refine ⟨origin, List.mem_reverse.mp (List.mem_of_find?_eq_some hfound), ?_, ?_⟩
  · rw [origin?_eq, hfound]
    rfl
  · rintro rfl
    have horigin : source.calls origin = true := by simpa using List.find?_some hfound
    exact hcalls horigin

/-- The origin of an undisputed name is its callable. -/
theorem eq_of_undisputed {called : String} {callable origin : Callable}
    (h : definition.publicCallables.get? called = some callable)
    (hundisputed : source.Undisputed definition callable)
    (horigin : source.origin? definition called = some origin) : origin = callable := by
  obtain rfl : callable.name = called :=
    Schema.name_of_mem_publicCallables _ (Dict.get?_eq_some_iff.mp h)
  rw [origin?_eq] at horigin
  rcases hundisputed with hcalls | hnone
  · have hfound : (definition.requests.reverse.find? fun c =>
        source.calls c && c.name == callable.name) = some callable := by
      obtain ⟨-, before, behind, hsplit, hbefore⟩ :=
        List.find?_eq_some_iff_append.mp (find?_requests h hcalls)
      refine List.find?_eq_some_iff_append.mpr
        ⟨by simp [hcalls], before, behind, hsplit, fun other ho => ?_⟩
      rw [Bool.not_and, hbefore other ho, Bool.or_true]
    rw [hfound] at horigin
    exact (Option.some.inj horigin).symm
  · have hfound : (definition.requests.reverse.find? fun c =>
        source.calls c && c.name == callable.name) = none := by
      refine List.find?_eq_none.mpr fun other ho => ?_
      by_cases hname : other.name = callable.name
      · simp [hnone other (List.mem_reverse.mp ho) hname]
      · simp [hname]
    rw [hfound, Option.none_or] at horigin
    exact eq_of_find?_loads h horigin

end ShapeSource

/-! ### A crane -/

namespace Crane

/-- A crane can be loaded with a crate. -/
def loading : ActionDefinition := ⟨some ⟨"Load", []⟩, some ⟨"Crate", [], none⟩, none⟩

/-- Its data can be loaded, too. -/
def crane : ResourceDefinition :=
  { ResourceDefinition.empty with
    load := some ⟨⟨"DescribeCrane", []⟩, none⟩
    actions := .ofList [("Load", loading)] }

def source : ShapeSource where
  serviceName := "crane"
  model :=
    { serviceName := "crane"
      metadata := .empty
      operations := .ofList [("Load", ⟨none, none, none, none⟩)]
      shapes := .empty
      documentation := none }
  document := ⟨some crane, .ofList [("Crate", .empty)]⟩
  waiters := none

theorem requests_crane : crane.requests = [.action "load" loading] := by
  have h : Naming.snakeCase "Load" = "load" := by decide +kernel
  change [Callable.action (Naming.snakeCase "Load") loading] = _
  rw [h]

theorem ask_root : ∃ methods, source.oracle.ask none = .ok methods := ⟨_, rfl⟩

theorem publicCallables_eq (called : String) (h : called ∈ Schema.loadNames) :
    crane.publicCallables.get? called = some (.load called ⟨⟨"DescribeCrane", []⟩, none⟩) := by
  have hcallables : (Schema.outline "" crane).callables = crane.requests ++
    [.load "load" ⟨⟨"DescribeCrane", []⟩, none⟩, .load "reload" ⟨⟨"DescribeCrane", []⟩, none⟩,
      .availableSubresources "get_available_subresources"
        (Schema.outline "" crane).subResourceNames] := rfl
  rw [ResourceDefinition.publicCallables, Schema.get?_publicCallables, hcallables, requests_crane]
  rcases List.mem_pair.mp h with rfl | rfl <;> rfl

theorem origin?_load : source.origin? crane "load" = some (.action "load" loading) := by
  rw [ShapeSource.origin?_eq, requests_crane]
  rfl

end Crane

/-! ### The signature of a public callable -/

namespace ShapeSource

/-- Where the method under a public name comes from. The origin of the name is its callable, if
anything, exactly if the name is undisputed. Then the map has no method under it but that of the
callable: of a load that of the object alone, of an action or wait that of its own request, and of
the others none. Under a disputed name it has the method of another action or wait. -/
theorem signature_origin (source : ShapeSource) {asked : Option String}
    {definition : ResourceDefinition} {methods : Dict Method} {called : String}
    {callable : Callable} (hdefinition : source.definition? asked = some definition)
    (hmethods : source.oracle.ask asked = .ok methods)
    (hpublic : definition.publicCallables.get? called = some callable) :
    ((∀ origin, source.origin? definition called = some origin → origin = callable) ↔
      source.Undisputed definition callable) ∧
    (source.Undisputed definition callable → ∀ method, methods.get? called = some method →
      source.ownMethod callable = .ok (some method)) ∧
    (¬source.Undisputed definition callable → ∃ origin ∈ definition.requests, origin ≠ callable ∧
      source.origin? definition called = some origin ∧
      ∃ method, methods.get? called = some method ∧
        source.ownMethod origin = .ok (some method)) := by
  rw [source.ask_eq hdefinition] at hmethods
  refine ⟨⟨fun ho => ?_, fun hu origin => eq_of_undisputed hpublic hu⟩, fun hu method hm => ?_,
    fun hd => ?_⟩
  · by_contra hd
    obtain ⟨origin, -, horigin, hne⟩ := exists_origin?_of_not_undisputed hpublic hd
    exact hne (ho origin horigin)
  · obtain ⟨origin, horigin, hown⟩ := exists_origin?_of_get? hmethods hm
    rwa [eq_of_undisputed hpublic hu horigin] at hown
  · obtain ⟨origin, hmem, horigin, hne⟩ := exists_origin?_of_not_undisputed hpublic hd
    exact ⟨origin, hmem, hne, horigin, get?_of_origin? hmethods horigin⟩

theorem signature_origin_reload : ∃ methods, Crane.source.oracle.ask none = .ok methods ∧
    ∀ method, methods.get? "reload" = some method →
      method = .ofSignature "reload" [Argument.self] .nothing := by
  obtain ⟨methods, hmethods⟩ := Crane.ask_root
  have hpublic := Crane.publicCallables_eq "reload" (by decide)
  have h := (Crane.source.signature_origin rfl hmethods hpublic).2.1
  refine ⟨methods, hmethods, fun method hm => ?_⟩
  have hundisputed : Crane.source.Undisputed Crane.crane
      (.load "reload" ⟨⟨"DescribeCrane", []⟩, none⟩) := by
    refine .inr fun other ho hname => ?_
    rw [Crane.requests_crane, List.mem_singleton] at ho
    subst ho
    exact absurd hname (by decide)
  exact (Option.some.inj (Except.ok.inj (h hundisputed method hm))).symm

/-- The method of a public name may be another than that of its callable: where a crane has an
action called load, its load has the signature of the action. -/
theorem not_forall_ownMethod : ¬∀ (source : ShapeSource) (asked : Option String)
    (definition : ResourceDefinition) (methods : Dict Method) (called : String)
    (callable : Callable) (method : Method), source.definition? asked = some definition →
      source.oracle.ask asked = .ok methods →
      definition.publicCallables.get? called = some callable →
      methods.get? called = some method → source.ownMethod callable = .ok (some method) := by
  intro h
  obtain ⟨methods, hmethods⟩ := Crane.ask_root
  have hdefinition : Crane.source.definition? none = some Crane.crane := rfl
  rw [Crane.source.ask_eq hdefinition] at hmethods
  obtain ⟨method, hentry, hown⟩ := get?_of_origin? hmethods Crane.origin?_load
  have hload := h Crane.source none Crane.crane methods "load" _ _ hdefinition
    (by rwa [Crane.source.ask_eq hdefinition])
    (Crane.publicCallables_eq "load" (by decide)) hentry
  -- the action gives a crate and the load gives nothing
  cases hown
  cases hload

end ShapeSource

end ResourceStubs
