import ResourceStubs.Assembly.Attributes
import ResourceStubs.Assembly.Collections
import ResourceStubs.Assembly.Documentation
import ResourceStubs.Assembly.Signature

/-! The stub class of one resource. -/

namespace ResourceStubs.ResourceInstance

variable (resource : ResourceInstance)

/-- The method of a callable: its signature, and then its documentation. -/
def method (service : ServiceName) (limit : Nat) (name stubName : String) (known : Dict Method)
    (callable : Callable) : Except Error Method := do
  let signature ← resource.signature name callable (SignatureSource.usual known)
  let text ← resource.documentation name callable
  return { signature with docstring := docstring service limit name stubName callable.name text }

/-- The methods of the public callables, sorted by name. -/
def methods (service : ServiceName) (limit : Nat) (name stubName : String) (known : Dict Method) :
    Except Error (List Method) :=
  resource.schema.sortedCallables.mapM fun (_, callable) =>
    resource.method service limit name stubName known callable

/-- The attribute that gives access to a collection. -/
def collectionAttribute (service : ServiceName) (collection : Collection) : Attribute :=
  ⟨collection.attributeName, .reference collection.name service.name false⟩

/-- The class of a resource that is called `name`, and `stubName` in the documentation of the stubs,
with the methods that are known of it. -/
def body (oracle : Oracle) (service : ServiceName) (limit : Nat) (name stubName : String)
    (known : Dict Method) : Except Error Resource := do
  let methods ← resource.methods service limit name stubName known
  let data ← resource.dataAttributes
  let collections ← resource.collectionClasses oracle service name
  return {
    name
    service
    methods
    attributes := data ++ resource.identifierAttributes ++ resource.referenceAttributes
      ++ collections.map (collectionAttribute service)
    collections }

/-- The class of a resource, whose methods the oracle is asked about by its name. -/
def toStub (oracle : Oracle) (service : ServiceName) (limit : Nat) (name : String) :
    Except Error Resource := do
  resource.body oracle service limit name name (← oracle.methodsOf name)

end ResourceStubs.ResourceInstance
