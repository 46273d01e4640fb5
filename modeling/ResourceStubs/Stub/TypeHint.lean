import ResourceStubs.Error
import ResourceStubs.Naming
import ResourceStubs.Reserved

/-! Type hints of arguments, return values and attributes. -/

namespace ResourceStubs

/-- A type hint. -/
inductive TypeHint where
  | any
  | nothing
  | str
  | int
  | float
  | bool
  | bytes
  | dateTime
  | list (item : TypeHint)
  | dict (key value : TypeHint)
  | iterator (item : TypeHint)
  /-- A named set of strings. -/
  | literal (name : String) (values : List String)
  /-- A generated record type. -/
  | typeDef (name : String)
  /-- A class generated for a service, perhaps before that class is defined. -/
  | reference (name service : String) (quoted : Bool)
  deriving DecidableEq, Repr, Inhabited

namespace TypeHint

/-- The name under which a literal type with the given values is generated: an anonymous string type
is named after its values, and a reserved name is put out of the way. -/
def literalName (name : String) (values : List String) : String :=
  if "__string".toList.isPrefixOf name.toList then
    String.join (values.map Naming.classPrefix) ++ "Type"
  else if isReserved name then name ++ "Type"
  else name

/-- A literal type. It has at least one value, and each value once. -/
def ofValues (name : String) (values : List String) : Except Error TypeHint :=
  if values.isEmpty then .error (.parse s!"Literal {name} has no values")
  else .ok (.literal (literalName name values.eraseDups) values.eraseDups)

/-- The hint as it stands in a stub. -/
def text : TypeHint → String
  | any => "Any"
  | nothing => "None"
  | str => "str"
  | int => "int"
  | float => "float"
  | bool => "bool"
  | bytes => "bytes"
  | dateTime => "datetime"
  | list item => s!"List[{item.text}]"
  | dict key value => s!"Dict[{key.text}, {value.text}]"
  | iterator item => s!"Iterator[{item.text}]"
  | literal _ [value] => s!"Literal['{value}']"
  | literal name _ => name
  | typeDef name => name
  | reference name _ quoted => if quoted then s!"\"{name}\"" else name

/-- A literal type. -/
def isLiteral : TypeHint → Bool
  | literal _ _ => true
  | _ => false

/-- A list type. -/
def isList : TypeHint → Bool
  | list _ => true
  | _ => false

/-- A dictionary type. -/
def isDict : TypeHint → Bool
  | dict _ _ => true
  | _ => false

/-- The class that the hint refers to, directly or as the element of lists and iterators. -/
def referenceName? : TypeHint → Option String
  | reference name _ _ => some name
  | list item => item.referenceName?
  | iterator item => item.referenceName?
  | _ => none

/-- A list of the annotated type if `many`, else the type itself. -/
def listIf (many : Bool) (item : TypeHint) : TypeHint := if many then list item else item

end TypeHint

end ResourceStubs
