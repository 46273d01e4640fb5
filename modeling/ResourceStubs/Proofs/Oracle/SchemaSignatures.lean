import ResourceStubs.Assembly.Signature
import ResourceStubs.Proofs.Model.Descent
import ResourceStubs.Proofs.Oracle.Origin

/-! Two signatures of an action. One is derived from the shapes of its operation. The other comes
from the schema of the resource, which knows no argument by its name and no shape of what is
returned. The derived one asks for more: wherever it is found the schema gives a signature too, and
the two agree on the name, on the object, on the resources that the action leads to and on whether
it returns anything. Nor is a method derived under a name that the schema does not have. -/

namespace ResourceStubs

open Fallible

/-- The derived signature of an action and that of the schema agree. They have one name and take the
object first. Where the action leads to resources they return the same, and else one returns nothing
exactly if the other does. -/
structure ActionDefinition.SignaturesAgree (definition : ActionDefinition)
    (derived schema : Method) : Prop where
  name_eq : derived.name = schema.name
  head?_derived : derived.arguments.head? = some Argument.self
  head?_schema : schema.arguments.head? = some Argument.self
  returns_eq : definition.resource.isSome → derived.returns = schema.returns
  returns_nothing_iff : definition.resource = none →
    (derived.returns = .nothing ↔ schema.returns = .nothing)

namespace ShapeSource

variable {source : ShapeSource} {resource : ResourceInstance}

/-! ### The signature of an action -/

theorem head?_inputArguments {operationName : String} {params : List Binding} {allOptional : Bool}
    {arguments : List Argument}
    (h : source.inputArguments operationName params allOptional = .ok arguments) :
    arguments.head? = some Argument.self := by
  obtain ⟨operation, -, h⟩ := bind_eq_ok.mp h
  split at h
  next =>
    rw [← pure_eq_ok.mp h]
    rfl
  next =>
    obtain ⟨members, -, h⟩ := bind_eq_ok.mp h
    obtain ⟨given, -, h⟩ := bind_eq_ok.mp h
    rw [← pure_eq_ok.mp h]
    rfl

/-- The schema sees whether an operation returns anything, since no shape has the hint of a method
that returns nothing. -/
theorem outputHint_agrees (hmodel : resource.client.model = source.model) {operationName : String}
    {derived : TypeHint} (h : source.outputHint operationName = .ok derived) :
    ∃ hint, resource.outputHint operationName = .ok hint ∧
      (derived = .nothing ↔ hint = .nothing) := by
  obtain ⟨operation, hoperation, h⟩ := bind_eq_ok.mp h
  rw [ResourceInstance.outputHint, hmodel, hoperation, ok_bind]
  cases ho : operation.output with
  | none =>
    rw [ho] at h
    exact ⟨.nothing, rfl, by simp [← pure_eq_ok.mp h]⟩
  | some output =>
    rw [ho] at h
    have hderived : derived ≠ .nothing := (ServiceModel.hints_of_hintFrom h).ne_nothing
    exact ⟨.dict .str .any, rfl, by simp [hderived]⟩

/-- Where a signature of an action is derived, the schema gives one that agrees. -/
theorem actionMethod_agrees (hmodel : resource.client.model = source.model)
    (hservice : resource.serviceName = source.serviceName) (name : String)
    {definition : ActionDefinition} (hsome : definition.request.isSome) {found : Option Method}
    (h : source.actionMethod name definition = .ok found) :
    ∃ derived schema, found = some derived ∧
      resource.signatureFrom (.action name definition) .schema = .ok (some schema) ∧
      definition.SignaturesAgree derived schema := by
  obtain ⟨hnone, -⟩ | ⟨request, arguments, returns, hrequest, rfl, harguments, hreturns⟩ :=
    source.actionMethod_cases h
  · simp [hnone] at hsome
  have hschema {hint : TypeHint} (hhint : resource.actionHint definition = .ok hint) :
      resource.signatureFrom (.action name definition) .schema =
        .ok (some (.ofSignature name [Argument.self, Argument.keywords] hint)) := by
    rw [ResourceInstance.signatureFrom, ResourceInstance.schemaSignature, hhint]
    rfl
  have hself := head?_inputArguments harguments
  cases htarget : definition.resource with
  | some target =>
    rw [htarget] at hreturns
    subst hreturns
    have hhint : resource.actionHint definition = .ok (target.hint source.serviceName) := by
      rw [ResourceInstance.actionHint, htarget, hservice]
    exact ⟨_, _, rfl, hschema hhint, rfl, hself, rfl, fun _ => rfl,
      fun hn => by simp [htarget] at hn⟩
  | none =>
    rw [htarget] at hreturns
    obtain ⟨hint, houtput, hnothing⟩ := outputHint_agrees hmodel hreturns
    have hhint : resource.actionHint definition = .ok hint := by
      rw [ResourceInstance.actionHint, htarget, ActionDefinition.operation?, hrequest]
      exact houtput
    exact ⟨_, _, rfl, hschema hhint, rfl, hself, rfl, fun hs => by simp [htarget] at hs,
      fun _ => hnothing⟩

/-! ### The names of the derived methods -/

theorem declaredCallables_of_resolve {name : String} {definition : ResourceDefinition}
    {resources : Dict ResourceDefinition} {schema : Schema}
    (h : Schema.resolve name definition resources = .ok schema) :
    schema.declaredCallables = (Schema.outline "" definition).declaredCallables := by
  obtain ⟨collections, -, rfl⟩ := Schema.resolve_eq_ok h
  rfl

/-- A method is derived for a declared callable only. -/
theorem mem_declaredCallables_of_mem_signed {definition : ResourceDefinition} {callable : Callable}
    (h : callable ∈ source.signed definition) :
    callable ∈ (Schema.outline "" definition).declaredCallables := by
  have hdeclared : (Schema.outline "" definition).declaredCallables =
      definition.requests ++ ((Schema.outline "" definition).subResources ++
        (Schema.outline "" definition).loads) := by
    rw [Schema.declaredCallables, List.append_assoc]
    rfl
  rw [hdeclared]
  rcases List.mem_append.mp h with hload | hrequest
  · exact List.mem_append_right _ (List.mem_append_right _ hload)
  · exact List.mem_append_left _ (List.mem_filter.mp hrequest).1

/-- Every name that a method is derived under is that of a callable of the schema. -/
theorem exists_callable_of_mem_keys {definition : ResourceDefinition} {methods : Dict Method}
    (hmethods : source.definitionMethods definition = .ok methods) {name : String}
    {resources : Dict ResourceDefinition} {schema : Schema}
    (hschema : Schema.resolve name definition resources = .ok schema) {called : String}
    (h : called ∈ methods.keys) : ∃ callable ∈ schema.callables, callable.name = called := by
  obtain ⟨method, hmethod⟩ := Dict.mem_keys_iff.mp h
  obtain ⟨origin, horigin, -⟩ := exists_origin?_of_get? hmethods hmethod
  have hsigned : origin ∈ source.signed definition :=
    List.mem_reverse.mp (List.mem_of_find?_eq_some horigin)
  have hname : origin.name = called := by simpa using List.find?_some horigin
  refine ⟨origin, (schema.mem_callables).mpr (.inl ?_), hname⟩
  rw [declaredCallables_of_resolve hschema]
  exact mem_declaredCallables_of_mem_signed hsigned

/-- What is derived from the shapes of a service agrees with what the schemas of its resources give.
Wherever a signature is derived of an action with a request, the schema gives one too, and they
agree. And whatever the resource type, a method of it is derived only under the name of a callable
of its schema. -/
theorem signatures_agree (hmodel : resource.client.model = source.model)
    (hservice : resource.serviceName = source.serviceName) :
    (∀ (name : String) (definition : ActionDefinition) (found : Option Method),
      definition.request.isSome → source.actionMethod name definition = .ok found →
      ∃ derived schema, found = some derived ∧
        resource.signatureFrom (.action name definition) .schema = .ok (some schema) ∧
        definition.SignaturesAgree derived schema) ∧
    ∀ (definition : ResourceDefinition) (methods : Dict Method) (name : String)
      (resources : Dict ResourceDefinition) (schema : Schema),
      source.definitionMethods definition = .ok methods →
      Schema.resolve name definition resources = .ok schema →
      ∀ called ∈ methods.keys, ∃ callable ∈ schema.callables, callable.name = called :=
  ⟨fun name _ _ hrequest h => actionMethod_agrees hmodel hservice name hrequest h,
    fun _ _ _ _ _ hmethods hschema _ h => exists_callable_of_mem_keys hmethods hschema h⟩

end ShapeSource

/-! ### A winch -/

namespace Winch

/-- A winch is turned, and what is measured then is returned. -/
def turning : ActionDefinition := ⟨some ⟨"Turn", []⟩, none, none⟩

def winch : ResourceDefinition :=
  { ResourceDefinition.empty with actions := .ofList [("Turn", turning)] }

def source : ShapeSource where
  serviceName := "winch"
  model :=
    { serviceName := "winch"
      metadata := .empty
      operations := ⟨[("Turn", ⟨none, some ⟨"TurnRequest", none⟩, some ⟨"Tensions", none⟩, none⟩)],
        by decide⟩
      shapes := ⟨[("TurnRequest", .record ⟨[("Times", ⟨"Number", none⟩)], by decide⟩ ["Times"]),
        ("Tensions", .list ⟨"Number", none⟩), ("Number", .integer)], by decide⟩
      documentation := none }
  document := ⟨none, .ofList [("Winch", winch)]⟩
  waiters := none

def resource : ResourceInstance :=
  ⟨⟨"Winch", Schema.outline "Winch" winch, ⟨"winch", source.document, source.model, none⟩⟩, [],
    ⟨"winch", source.model⟩⟩

end Winch

theorem ShapeSource.signatures_agree_winch :
    (∃ schema, Winch.resource.signatureFrom (.action "turn" Winch.turning) .schema =
        .ok (some schema) ∧
      Winch.turning.SignaturesAgree
        (.ofSignature "turn" [Argument.self, .keywordMark, .typed "Times" .int] (.list .int))
        schema) ∧
    ∃ schema, Schema.resolve "Winch" Winch.winch .empty = .ok schema ∧
      ∃ callable ∈ schema.callables, callable.name = "turn" := by
  obtain ⟨hactions, hnames⟩ := @signatures_agree Winch.source Winch.resource rfl rfl
  have hderived : Winch.source.actionMethod "turn" Winch.turning = .ok (some (.ofSignature "turn"
      [Argument.self, .keywordMark, .typed "Times" .int] (.list .int))) := by decide +kernel
  have hkeys : (Winch.source.definitionMethods Winch.winch).map Dict.keys = .ok ["turn"] := by
    decide +kernel
  obtain ⟨methods, hmethods, hturn⟩ := map_eq_ok.mp hkeys
  constructor
  · obtain ⟨derived, schema, hfound, hschema, hagree⟩ :=
      hactions "turn" Winch.turning _ rfl hderived
    exact ⟨schema, hschema, Option.some.inj hfound ▸ hagree⟩
  · exact ⟨_, rfl,
      hnames Winch.winch methods "Winch" .empty _ hmethods rfl "turn" (by simp [hturn])⟩

end ResourceStubs
