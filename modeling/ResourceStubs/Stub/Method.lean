import ResourceStubs.Stub.TypeHint

/-! Arguments, methods and attributes of a stub class. -/

namespace ResourceStubs

/-- An argument of a method. `marker` is what stands before its name: nothing, one star for the mark
after which arguments are given by keyword, or two for the remaining keywords. -/
structure Argument where
  name : String
  hint : Option TypeHint
  fallback : Option String
  marker : String
  deriving DecidableEq, Repr, Inhabited

namespace Argument

/-- An argument of the given type. -/
def typed (name : String) (hint : TypeHint) : Argument := ⟨name, some hint, none, ""⟩

/-- The name of the object that a method belongs to. -/
def selfName : String := "self"

/-- The object that a method belongs to. -/
def self : Argument := ⟨selfName, none, none, ""⟩

/-- Any further keywords. -/
def keywords : Argument := ⟨"kwargs", some .any, none, "**"⟩

/-- The mark after which arguments are given by keyword. -/
def keywordMark : Argument := ⟨"", none, none, "*"⟩

/-- The argument with a default value. -/
def withFallback (argument : Argument) (fallback : String) : Argument :=
  { argument with fallback := some fallback }

/-- The argument takes any further keywords. -/
def isKeywords (argument : Argument) : Bool := argument.marker == "**"

/-- The argument must be given. -/
def isRequired (argument : Argument) : Bool :=
  argument.fallback.isNone && argument.marker.isEmpty

end Argument

/-- A method of a stub class. -/
structure Method where
  name : String
  arguments : List Argument
  returns : TypeHint
  docstring : String
  deriving DecidableEq, Repr, Inhabited

namespace Method

/-- A method without documentation. -/
def ofSignature (name : String) (arguments : List Argument) (returns : TypeHint) : Method :=
  ⟨name, arguments, returns, ""⟩

/-- The first argument of a name. -/
def argument? (method : Method) (name : String) : Option Argument :=
  method.arguments.find? (·.name == name)

/-- The arguments that a caller gives. -/
def callArguments (method : Method) : List Argument :=
  method.arguments.filter (·.name != Argument.selfName)

end Method

/-- An attribute of a stub class. -/
structure Attribute where
  name : String
  hint : TypeHint
  deriving DecidableEq, Repr, Inhabited

end ResourceStubs
