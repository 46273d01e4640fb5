import ResourceStubs.Proofs.Dict
import ResourceStubs.Proofs.Fallible
import ResourceStubs.Oracle.Shapes

/-! Oracles that have every method under its own name. A signature table is such an oracle however
it is filled, and so is the oracle over the shapes of a service, which derives a method for each
action that makes a request. -/

namespace ResourceStubs

open Fallible

/-- Every method stands under its own name. -/
def KeyedByName (methods : Dict Method) : Prop :=
  ∀ key method, methods.get? key = some method → method.name = key

theorem keyedByName_empty : KeyedByName Dict.empty := by
  intro key method h
  simp at h

theorem KeyedByName.insert {methods : Dict Method} (h : KeyedByName methods) (method : Method) :
    KeyedByName (methods.insert method.name method) := by
  intro key found hf
  rw [Dict.get?_insert] at hf
  split at hf
  next hk => rw [hk, Option.some.inj hf]
  next => exact h key found hf

namespace Oracle

/-- Every answer has each method under its own name. -/
def KeyedByName (oracle : Oracle) : Prop :=
  ∀ asked methods, oracle.ask asked = .ok methods → ResourceStubs.KeyedByName methods

/-- Every question is answered. -/
def Total (oracle : Oracle) : Prop := ∀ asked, ∃ methods, oracle.ask asked = .ok methods

/-- Some question is answered with the error. -/
def Raises (oracle : Oracle) (e : Error) : Prop := ∃ asked, oracle.ask asked = .error e

theorem Total.not_raises {oracle : Oracle} (h : oracle.Total) (e : Error) : ¬oracle.Raises e := by
  rintro ⟨asked, he⟩
  obtain ⟨methods, hm⟩ := h asked
  rw [he] at hm
  cases hm

end Oracle

namespace SignatureTable

/-- The tables that come of filling the empty one with methods, one after the other. -/
inductive Filled : SignatureTable → Prop
  | empty : Filled empty
  | addMethod {table : SignatureTable} (className : String) (method : Method) :
    Filled table → Filled (table.addMethod className method)
  | addRootMethod {table : SignatureTable} (method : Method) :
    Filled table → Filled (table.addRootMethod method)

theorem total_oracle (table : SignatureTable) : table.oracle.Total := by
  rintro (_ | className) <;> exact ⟨_, rfl⟩

theorem keyedByName_oracle {table : SignatureTable} (h : table.Filled) :
    table.oracle.KeyedByName := by
  induction h with
  | empty =>
    rintro (_ | className) methods hm <;> cases hm <;> exact keyedByName_empty
  | @addMethod table className method _ ih =>
    rintro (_ | asked) methods hm
    · exact ih none methods hm
    · obtain rfl := Except.ok.inj hm
      rw [SignatureTable.addMethod, Dict.get?_insert]
      split
      · exact (ih (some className) _ rfl).insert method
      · exact ih (some asked) _ rfl
  | @addRootMethod table method _ ih =>
    rintro (_ | asked) methods hm
    · obtain rfl := Except.ok.inj hm
      exact (ih none _ rfl).insert method
    · exact ih (some asked) methods hm

end SignatureTable

namespace ShapeSource

variable (source : ShapeSource)

/-- What is derived of an action: nothing without a request, and else a method under its name, with
the arguments from the input of its operation. The method returns the target of the action, or else
what the operation returns. -/
theorem actionMethod_cases {name : String} {definition : ActionDefinition} {found : Option Method}
    (h : source.actionMethod name definition = .ok found) :
    (definition.request = none ∧ found = none) ∨
      ∃ request arguments returns, definition.request = some request ∧
        found = some (.ofSignature name arguments returns) ∧
        source.inputArguments request.operation request.params false = .ok arguments ∧
        match definition.resource with
        | some target => returns = target.hint source.serviceName
        | none => source.outputHint request.operation = .ok returns := by
  rw [actionMethod] at h
  cases hrequest : definition.request with
  | none =>
    rw [hrequest] at h
    exact .inl ⟨rfl, (pure_eq_ok.mp h).symm⟩
  | some request =>
    rw [hrequest] at h
    obtain ⟨arguments, harguments, h⟩ := bind_eq_ok.mp h
    right
    cases htarget : definition.resource with
    | some target =>
      rw [htarget] at h
      exact ⟨request, arguments, _, rfl, (pure_eq_ok.mp h).symm, harguments, rfl⟩
    | none =>
      rw [htarget] at h
      obtain ⟨returns, hreturns, h⟩ := bind_eq_ok.mp h
      exact ⟨request, arguments, returns, rfl, (pure_eq_ok.mp h).symm, harguments, hreturns⟩

theorem get?_methodDict (methods : List Method) (called : String) :
    (methodDict methods).get? called = methods.reverse.find? (·.name == called) :=
  Dict.get?_ofList_named _ _ _

theorem keyedByName_methodDict (methods : List Method) : KeyedByName (methodDict methods) := by
  intro key method h
  rw [get?_methodDict] at h
  simpa using List.find?_some h

theorem keyedByName_definitionMethods {definition : ResourceDefinition} {methods : Dict Method}
    (h : source.definitionMethods definition = .ok methods) : KeyedByName methods := by
  obtain ⟨actions, _, h⟩ := bind_eq_ok.mp h
  obtain ⟨waiters, _, h⟩ := bind_eq_ok.mp h
  rw [← pure_eq_ok.mp h]
  exact keyedByName_methodDict _

theorem keyedByName_collectionMethods {className : String} {definition : ActionDefinition}
    {methods : Dict Method} (h : source.collectionMethods className definition = .ok methods) :
    KeyedByName methods := by
  obtain ⟨filter, _, h⟩ := bind_eq_ok.mp h
  obtain ⟨batch, _, h⟩ := bind_eq_ok.mp h
  rw [← pure_eq_ok.mp h]
  exact keyedByName_methodDict _

theorem keyedByName_oracle : source.oracle.KeyedByName := by
  rintro (_ | className) methods h
  · change source.rootMethods = .ok methods at h
    unfold rootMethods at h
    split at h
    · exact source.keyedByName_definitionMethods h
    · rw [← Except.ok.inj h]
      exact keyedByName_empty
  · change source.methodsOf className = .ok methods at h
    unfold methodsOf at h
    split at h
    · exact source.keyedByName_definitionMethods h
    · split at h
      · exact source.keyedByName_collectionMethods h
      · rw [← Except.ok.inj h]
        exact keyedByName_empty

end ShapeSource

end ResourceStubs
