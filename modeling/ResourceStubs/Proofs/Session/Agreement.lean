import ResourceStubs.Command.Outcome

/-! Sessions that agree on a service. A run over a service asks its session about the documents of
that service alone, though it asks again and again. So runs over sessions that have the same
documents of it are the same. -/

namespace ResourceStubs

/-- The sessions give the same answers about the documents of a service. -/
structure Session.AgreeOn (name : String) (session session' : Session) : Prop where
  document : session.resourceDocument name = session'.resourceDocument name
  model : session.serviceModel name = session'.serviceModel name
  waiters : session.waiterModel name = session'.waiterModel name

namespace Session.AgreeOn

variable {session session' : Session} {service : ServiceName}
  (h : AgreeOn service.name session session')
include h

theorem waiterModel?_eq :
    session.waiterModel? service.name = session'.waiterModel? service.name := by
  rw [waiterModel?, waiterModel?, h.waiters]

theorem client_eq : session.client service = session'.client service := by
  rw [client, client, h.model]

theorem resource_eq : session.resource service = session'.resource service := by
  rw [resource, resource, h.document, h.client_eq, h.waiterModel?_eq]

theorem subResources_eq (parent : ResourceInstance) :
    session.subResources service parent = session'.subResources service parent := by
  have hcontext : session.subResourceContext service parent =
      session'.subResourceContext service parent := by
    rw [subResourceContext, subResourceContext, h.waiterModel?_eq]
  have heach : session.subResource service = session'.subResource service := by
    funext context declared
    rw [subResource, subResource, h.client_eq]
  rw [subResources, subResources, hcontext, heach]

/-- Runs over sessions that agree on the service are the same. -/
theorem stubs_eq (oracle : Oracle) (limit : Nat) :
    session.stubs oracle service limit = session'.stubs oracle service limit := by
  rw [stubs, stubs, h.resource_eq, funext h.subResources_eq]

theorem ofSession_eq :
    ShapeSource.ofSession session service = ShapeSource.ofSession session' service := by
  rw [ShapeSource.ofSession, ShapeSource.ofSession, h.model, h.document, h.waiterModel?_eq]

/-- So it is with signatures from the shapes of the service. -/
theorem stubsFromShapes_eq (limit : Nat) :
    session.stubsFromShapes service limit = session'.stubsFromShapes service limit := by
  rw [stubsFromShapes, stubsFromShapes, h.ofSession_eq]
  exact congrArg (_ >>= ·) (funext fun source => h.stubs_eq source.oracle limit)

end Session.AgreeOn

end ResourceStubs
