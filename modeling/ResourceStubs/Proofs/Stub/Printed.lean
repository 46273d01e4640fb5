import ResourceStubs.Proofs.Json.Printed
import ResourceStubs.Proofs.Stub.RoundTrip

/-! The text of stub classes. Their JSON forms have no numbers, so what is printed of them is read
back, and nothing of the stub classes is lost on the way through the text. -/

namespace ResourceStubs

open Json

@[simp] theorem Json.plain_ofOption {α : Type} {encode : α → Json} (h : ∀ a, (encode a).Plain)
    (a? : Option α) : (ofOption encode a?).Plain := by
  cases a? with
  | none => exact .null
  | some a => exact h a

@[simp] theorem TypeHint.plain_toJson (hint : TypeHint) : hint.toJson.Plain := by
  induction hint with
  | list item ih | iterator item ih => simp [toJson, ofTagged, ih]
  | dict key value ihKey ihValue => simp [toJson, ofTagged, ihKey, ihValue]
  | literal name values => simp [toJson, ofTagged, ofTexts]
  | _ => simp [toJson, ofTagged, ofKind]

@[simp] theorem Argument.plain_toJson (argument : Argument) : argument.toJson.Plain := by
  simp [toJson]

@[simp] theorem Method.plain_toJson (method : Method) : method.toJson.Plain := by simp [toJson]

@[simp] theorem Attribute.plain_toJson (member : Attribute) : member.toJson.Plain := by
  simp [toJson]

@[simp] theorem ServiceName.plain_toJson (service : ServiceName) : service.toJson.Plain := by
  simp [toJson]

@[simp] theorem Collection.plain_toJson (collection : Collection) : collection.toJson.Plain := by
  simp [toJson]

@[simp] theorem Resource.plain_toJson (resource : Resource) : resource.toJson.Plain := by
  simp [toJson]

@[simp] theorem ServiceResource.plain_toJson (root : ServiceResource) : root.toJson.Plain := by
  simp [toJson]

/-- The JSON array of the stub classes of services. -/
def arrayOf (roots : List ServiceResource) : Json := .array (roots.map ServiceResource.toJson)

/-- The text holds the stub classes: it is the JSON array of their forms, printed over several
lines, a reader that allows its nesting has this array from it, and the array has the stub classes
back. -/
structure HoldsStubs (text : String) (roots : List ServiceResource) : Prop where
  printed : text = (arrayOf roots).pretty
  read : ∀ limit, (arrayOf roots).depth ≤ limit → readWithin limit text = some (arrayOf roots)
  decoded : list? ServiceResource.ofJson? (arrayOf roots) = some roots

theorem holdsStubs_pretty (roots : List ServiceResource) :
    HoldsStubs (arrayOf roots).pretty roots where
  printed := rfl
  read limit hdepth := by
    have hplain : (arrayOf roots).Plain := .array (by simp)
    exact hplain.readWithin_pretty hdepth
  decoded :=
    have trip := RoundTrips.list ServiceResource.roundTrips
    trip.decode_of_same (trip.same_self roots)

end ResourceStubs
