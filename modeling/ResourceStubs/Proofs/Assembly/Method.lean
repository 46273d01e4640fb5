import ResourceStubs.Assembly.Resource
import ResourceStubs.Proofs.Oracle.Keyed

/-! Methods, and what the classes are made of. Whatever methods are known of a class, the
documentation of a method comes from its callable alone, and so does the failure to make it: the
schema fails to give a signature only where the documentation fails too, and with the same error. A
method is called like the known method under the name of its callable, or else like the callable. If
each known method stands under its own name, all of a method but its signature comes from its
callable. -/

namespace ResourceStubs

open Fallible

/-- The name and the docstring of a method. -/
def Method.withoutSignature (method : Method) : Method :=
  { method with arguments := [], returns := .nothing }

/-- How the method is called whose callable has the name: like the method that is known under it, if
there is one. -/
def nameAmong (known : Dict Method) (called : String) : String :=
  ((known.get? called).map (·.name)).getD called

theorem nameAmong_eq_self {known : Dict Method} (h : KeyedByName known) (called : String) :
    nameAmong known called = called := by
  unfold nameAmong
  cases hk : known.get? called with
  | none => rfl
  | some method => exact h called method hk

namespace ServiceModel

variable (model : ServiceModel)

theorem operation_decides (name : String) :
    Decides (model.operation name) (name ∈ model.operations.keys) := by
  unfold operation
  cases h : model.operations.get? name with
  | some operation => exact .of_eq_ok rfl (Dict.mem_keys_iff.mpr ⟨operation, h⟩)
  | none => exact .of_told rfl (Dict.get?_eq_none_iff.mp h)

end ServiceModel

namespace ResourceInstance

variable (resource : ResourceInstance)

theorem signature_usual (resourceName : String) (callable : Callable) (known : Dict Method) :
    resource.signature resourceName callable (SignatureSource.usual known) =
      match known.get? callable.name with
      | some method => .ok method
      | none => resource.schemaSignature callable := by
  simp only [SignatureSource.usual, signature, signatureFrom]
  cases known.get? callable.name with
  | some method => rfl
  | none => cases resource.schemaSignature callable <;> rfl

theorem name_of_schemaSignature {callable : Callable} {method : Method}
    (h : resource.schemaSignature callable = .ok method) : method.name = callable.name := by
  cases callable with
  | action name definition =>
    obtain ⟨hint, _, h⟩ := bind_eq_ok.mp h
    rw [← pure_eq_ok.mp h]
    rfl
  | waiter | subResource | load | availableSubresources =>
    rw [← Except.ok.inj h]
    rfl

/-- Where the schema gives no signature there is no documentation, for the same reason: both need
the operation of an action. -/
theorem documentation_of_schemaSignature_error (resourceName : String) {callable : Callable}
    {e : Error} (h : resource.schemaSignature callable = .error e) :
    resource.documentation resourceName callable = .error e := by
  cases callable with
  | action name definition =>
    simp only [schemaSignature, actionHint, outputHint, documentation] at h ⊢
    cases hr : definition.resource with
    | some target => simp [hr, bind, Except.bind, pure, Except.pure] at h
    | none =>
      cases ho : definition.operation? with
      | none => simp [hr, ho, bind, Except.bind, pure, Except.pure] at h
      | some operationName =>
        cases hop : resource.client.model.operation operationName with
        | error e' => simpa [hr, ho, hop, bind, Except.bind] using h
        | ok operation =>
          cases hout : operation.output <;>
            simp [hr, ho, hop, hout, bind, Except.bind, pure, Except.pure] at h
  | waiter | subResource | load | availableSubresources => cases h

/-- A method is some signature with the documentation of its callable. There is always a signature
to it: whether it is made depends on the documentation alone. -/
theorem method_eq (service : ServiceName) (limit : Nat) (name stubName : String)
    (known : Dict Method) (callable : Callable) :
    ∃ signature : Method, signature.name = nameAmong known callable.name ∧
      resource.method service limit name stubName known callable =
        (resource.documentation name callable).map fun text =>
          { signature with
            docstring := docstring service limit name stubName callable.name text } := by
  simp only [method, signature_usual, nameAmong]
  cases known.get? callable.name with
  | some signature =>
    refine ⟨signature, rfl, ?_⟩
    cases resource.documentation name callable <;> rfl
  | none =>
    cases hs : resource.schemaSignature callable with
    | error e =>
      refine ⟨.ofSignature callable.name [] .nothing, rfl, ?_⟩
      rw [resource.documentation_of_schemaSignature_error name hs]
      rfl
    | ok signature =>
      refine ⟨signature, resource.name_of_schemaSignature hs, ?_⟩
      cases resource.documentation name callable <;> rfl

/-- Whatever is known of it, a method has the documentation of its callable. -/
theorem method_docstring (service : ServiceName) (limit : Nat) (name stubName : String)
    (known : Dict Method) (callable : Callable) :
    (resource.method service limit name stubName known callable).map (·.docstring) =
      (resource.documentation name callable).map
        (docstring service limit name stubName callable.name) := by
  obtain ⟨signature, -, h⟩ := resource.method_eq service limit name stubName known callable
  rw [h]
  cases resource.documentation name callable <;> rfl

/-- But for its signature, a method comes from its callable alone. -/
theorem method_withoutSignature (service : ServiceName) (limit : Nat) (name stubName : String)
    {known : Dict Method} (hknown : KeyedByName known) (callable : Callable) :
    (resource.method service limit name stubName known callable).map Method.withoutSignature =
      (resource.documentation name callable).map fun text =>
        ⟨callable.name, [], .nothing,
          docstring service limit name stubName callable.name text⟩ := by
  obtain ⟨signature, hname, h⟩ := resource.method_eq service limit name stubName known callable
  rw [h, ← nameAmong_eq_self hknown callable.name, ← hname]
  cases resource.documentation name callable <;> rfl

theorem name_of_method {service : ServiceName} {limit : Nat} {name stubName : String}
    {known : Dict Method} {callable : Callable} {method : Method}
    (h : resource.method service limit name stubName known callable = .ok method) :
    method.name = nameAmong known callable.name := by
  obtain ⟨signature, hname, hm⟩ := resource.method_eq service limit name stubName known callable
  rw [hm] at h
  obtain ⟨text, -, rfl⟩ := map_eq_ok.mp h
  exact hname

/-- What the class of a resource is made of. -/
theorem parts_of_body {oracle : Oracle} {service : ServiceName} {limit : Nat}
    {name stubName : String} {known : Dict Method} {stub : Resource}
    (h : resource.body oracle service limit name stubName known = .ok stub) :
    stub.name = name ∧
      resource.methods service limit name stubName known = .ok stub.methods ∧
      resource.collectionClasses oracle service name = .ok stub.collections := by
  obtain ⟨methods, hmethods, h⟩ := bind_eq_ok.mp h
  obtain ⟨data, -, h⟩ := bind_eq_ok.mp h
  obtain ⟨collections, hcollections, h⟩ := bind_eq_ok.mp h
  obtain rfl := pure_eq_ok.mp h
  exact ⟨rfl, hmethods, hcollections⟩

end ResourceInstance

/-- How a collection class is called, and that the oracle has answered for it. -/
theorem names_of_collectionClass {oracle : Oracle} {service : ServiceName} {parentName : String}
    {collection : CollectionSchema} {target : Target} {stub : Collection}
    (h : collectionClass oracle service parentName collection target = .ok stub) :
    stub.parentName = parentName ∧ stub.attributeName = collection.name ∧
      stub.name = collectionClassName parentName collection.name ∧
      ∃ known, oracle.ask (some stub.name) = .ok known := by
  obtain ⟨known, hknown, h⟩ := bind_eq_ok.mp h
  obtain rfl := pure_eq_ok.mp h
  exact ⟨rfl, rfl, rfl, known, hknown⟩

end ResourceStubs
