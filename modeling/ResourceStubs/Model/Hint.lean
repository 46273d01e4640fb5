import ResourceStubs.Model.Service
import ResourceStubs.Stub.TypeHint

/-! The type hint of a shape. Lists and maps are followed to their elements; a structure is only
named, so structures may contain themselves. A list or map that contains itself without a structure
between has no hint: the search for one does not end. -/

namespace ResourceStubs.ServiceModel

/-- The hint of a shape, through list and map shapes among `unseen` only. -/
def hintFrom (model : ServiceModel) (unseen : List String) (name : String) :
    Except Error TypeHint := do
  match ← model.shape name with
  | .string (some (value :: values)) => TypeHint.ofValues (name ++ "Type") (value :: values)
  | .string _ => .ok .str
  | .integer | .long => .ok .int
  | .float | .double => .ok .float
  | .boolean => .ok .bool
  | .timestamp => .ok .dateTime
  | .blob => .ok .bytes
  | .record _ _ => .ok (.typeDef (name ++ "TypeDef"))
  | .other => .ok .any
  | .list member =>
    if _seen : name ∈ unseen then
      return .list (← hintFrom model (unseen.erase name) member.shape)
    else endless
  | .map key value =>
    if _seen : name ∈ unseen then
      return .dict (← hintFrom model (unseen.erase name) key.shape)
        (← hintFrom model (unseen.erase name) value.shape)
    else endless
termination_by unseen.length
decreasing_by
  all_goals
    rw [List.length_erase_of_mem _seen]
    exact Nat.sub_lt (List.length_pos_of_mem _seen) Nat.one_pos
where
  /-- The end of a search that follows a list or map into itself. -/
  endless : Except Error TypeHint := .error (.introspection (.endless name))

/-- The hint of a shape. -/
def hint (model : ServiceModel) (name : String) : Except Error TypeHint :=
  model.hintFrom model.shapes.keys name

end ResourceStubs.ServiceModel
