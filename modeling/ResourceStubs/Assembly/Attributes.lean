import ResourceStubs.Model.Hint
import ResourceStubs.Oracle.Shapes

/-! The attributes of a resource, by where they come from. The lists are not compared with each
other, so a name may stand in several. -/

namespace ResourceStubs.ResourceInstance

variable (resource : ResourceInstance)

/-- The name belongs to an identifier. -/
def isIdentifier (name : String) : Bool := resource.schema.identifiers.any (·.name == name)

/-- The attribute of a member of the data. -/
def memberAttribute (member : ServiceModel.Member) : Except Error Attribute := do
  return ⟨Naming.snakeCase member.name, ← resource.client.model.hint member.ref.shape⟩

/-- The attributes of the data of the resource, without those that identify it. -/
def dataAttributes : Except Error (List Attribute) :=
  match resource.schema.shape with
  | none => .ok []
  | some shape => do
    let members ← resource.client.model.members shape
    (members.filter fun m => !resource.isIdentifier (Naming.snakeCase m.name)).mapM
      resource.memberAttribute

/-- The attributes of the identifiers. -/
def identifierAttributes : List Attribute :=
  resource.schema.identifiers.map fun identifier => ⟨identifier.name, .str⟩

/-- The attributes that refer to related resources. -/
def referenceAttributes : List Attribute :=
  resource.schema.references.map fun reference =>
    ⟨reference.name, reference.target.hint resource.serviceName⟩

end ResourceStubs.ResourceInstance
