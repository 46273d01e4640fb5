import ResourceStubs.Json.Token

/-! Reading a JSON text: the tokens are put together on a stack of open arrays and objects. -/

namespace ResourceStubs.Json

/-- An array or object that is still open, its parts last first. An object has the key of the member
that is being read; a key is none if it holds half of a surrogate pair. -/
inductive Frame where
  | array (items : List Json)
  | object (members : List (Option String × Json)) (key : Option String)

/-- What may come next. -/
inductive Expected where
  | value
  | valueOrClose
  | key
  | keyOrClose
  | colon
  | commaOrClose
  | nothing

/-- The open arrays and objects, innermost first, what may come next, and the value once it is
complete. -/
structure Reading where
  frames : List Frame
  expected : Expected
  done : Option Json

/-- The reading with one more value complete. -/
def Reading.put (frames : List Frame) (value : Json) : Reading :=
  match frames with
  | [] => ⟨[], .nothing, some value⟩
  | .array items :: outer => ⟨.array (value :: items) :: outer, .commaOrClose, none⟩
  | .object members key :: outer => ⟨.object ((key, value) :: members) none :: outer,
      .commaOrClose, none⟩

/-- The members of an object whose keys are all texts. -/
def namedMembers? : List (Option String × Json) → Option (List (String × Json))
  | [] => some []
  | (key, value) :: rest => do some ((← key, value) :: (← namedMembers? rest))

/-- The value of a complete array or object at the given depth, where values may be nested up to a
limit. -/
def Frame.close (limit depth : Nat) (frame : Frame) : Json :=
  if limit < depth then .unusable
  else match frame with
    | .array items => .array items.reverse
    | .object members _ =>
      match namedMembers? members.reverse with
      | some named => .object named
      | none => .unusable

/-- A value that is one token. -/
def Token.scalar? : Token → Option Json
  | .null => some .null
  | .bool b => some (.bool b)
  | .number n => some ((n.map Json.number).getD .unusable)
  | .string s => some ((s.map Json.string).getD .unusable)
  | _ => none

/-- The reading after a token that begins or is a value. -/
def Reading.value? (frames : List Frame) : Token → Option Reading
  | .openArray => some ⟨.array [] :: frames, .valueOrClose, none⟩
  | .openObject => some ⟨.object [] none :: frames, .keyOrClose, none⟩
  | token => token.scalar?.map (Reading.put frames)

/-- The reading after one more token. -/
def Reading.next? (limit : Nat) (r : Reading) (token : Token) : Option Reading :=
  match r.expected, token, r.frames with
  | .valueOrClose, .closeArray, .array items :: outer
  | .commaOrClose, .closeArray, .array items :: outer =>
    some (Reading.put outer ((Frame.array items).close limit r.frames.length))
  | .keyOrClose, .closeObject, .object members key :: outer
  | .commaOrClose, .closeObject, .object members key :: outer =>
    some (Reading.put outer ((Frame.object members key).close limit r.frames.length))
  | .value, token, frames | .valueOrClose, token, frames => Reading.value? frames token
  | .key, .string s, .object members _ :: outer
  | .keyOrClose, .string s, .object members _ :: outer =>
    some ⟨.object members s :: outer, .colon, none⟩
  | .colon, .colon, frames => some ⟨frames, .value, none⟩
  | .commaOrClose, .comma, .array items :: outer => some ⟨.array items :: outer, .value, none⟩
  | .commaOrClose, .comma, .object members key :: outer =>
    some ⟨.object members key :: outer, .key, none⟩
  | _, _, _ => none

/-- The value that the text is, with nothing but white space around it. Arrays and objects are kept
up to a limit of nesting. -/
def readWithin (limit : Nat) (text : String) : Option Json := do
  let tokens ← tokens? text.toList
  let reading ← tokens.foldlM (Reading.next? limit) ⟨[], .value, none⟩
  reading.done

/-- How deep arrays and objects may be nested where they are kept. -/
def maxDepth : Nat := 127

/-- The value that the text is, nested no deeper than documents may be. -/
def read? (text : String) : Option Json := readWithin maxDepth text

end ResourceStubs.Json
