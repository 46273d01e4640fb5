import ResourceStubs.Assembly.Resource
import ResourceStubs.Text.Replace

/-! All stub classes of a service: the service resource first, then every resource type that the
service declares. -/

namespace ResourceStubs

/-- The name of a resource type within its service: what stands behind the first full stop of its
type name. -/
def ResourceClass.nameInService (type : ResourceClass) : String :=
  match Text.splitOnce? ['.'] type.typeName.toList with
  | some (_, name) => String.ofList name
  | none => type.typeName

namespace Session

variable (session : Session)

/-- The class of the service resource. -/
def rootStub (oracle : Oracle) (service : ServiceName) (limit : Nat) (root : ResourceInstance) :
    Except Error Resource := do
  let known ← oracle.rootMethods
  root.body oracle service limit serviceResource (ServiceResource.classNameOf service) known

/-- The stub classes of a service, or none if it declares no resource types. -/
def stubs (oracle : Oracle) (service : ServiceName) (limit : Nat) :
    Except Error (Option ServiceResource) := do
  match ← session.resource service with
  | none => return none
  | some root =>
    let body ← rootStub oracle service limit root
    let resources ← session.subResources service root
    let subResources ← resources.mapM fun resource =>
      resource.toStub oracle service limit resource.type.nameInService
    return some (.ofResource body subResources)

end Session

end ResourceStubs
