import ResourceStubs.Error
import ResourceStubs.Json.Decode
import ResourceStubs.Json.Reader

/-! Reading a document of a service from its text. -/

namespace ResourceStubs

/-- The document that `decode` finds in a text, named `subject` where it cannot be read. -/
def readDocument {α : Type} (subject : String) (decode : Json → Option α) (text : String) :
    Except Error α :=
  match Json.read? text with
  | none => .error (.parse s!"Failed to parse {subject}: the text is not JSON")
  | some json =>
    match decode json with
    | none =>
      .error (.parse s!"Failed to parse {subject}: the fields are not those of the document")
    | some document => .ok document

end ResourceStubs
