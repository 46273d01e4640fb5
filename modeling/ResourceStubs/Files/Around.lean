/-! The path of the directory around a file, as text. -/

namespace ResourceStubs.Path

/-- A path, last character first, without the slashes and the full stops that its end does not
need. -/
def trimEnd : List Char → List Char
  | '/' :: c :: rest => trimEnd (c :: rest)
  | '.' :: '/' :: rest => trimEnd ('/' :: rest)
  | path => path
termination_by path => path.length

/-- The path of the directory around what a path leads to. It is empty where the path has one name
only, and where it leads to the top. -/
def around (path : String) : String :=
  match trimEnd path.toList.reverse with
  | ['/'] => ""
  | name => String.ofList (trimEnd (name.dropWhile (· ≠ '/'))).reverse

end ResourceStubs.Path
