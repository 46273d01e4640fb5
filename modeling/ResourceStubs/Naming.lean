import ResourceStubs.Text.Blank
import ResourceStubs.Text.CaseMap

/-! Names derived from the camel-cased names of service documents: the snake-cased name that a stub
exposes, the class name made from a snake-cased name, and the anchor of a documentation heading. -/

namespace ResourceStubs.Naming

open Text

/-- A name that ends in a plural acronym (`ARNs`: two or more capitals and a final `s`), as the text
before it and the acronym. -/
def pluralAcronym? (name : List Char) : Option (List Char × List Char) :=
  match name.reverse with
  | 's' :: back =>
    let capitals := back.takeWhile Char.isUpper
    if 2 ≤ capitals.length then
      some ((back.dropWhile Char.isUpper).reverse, capitals.reverse ++ ['s'])
    else none
  | _ => none

/-- A final plural acronym is set off by an underscore and put in small letters. -/
def splitPluralAcronym (name : List Char) : List Char :=
  match pluralAcronym? name with
  | some (before, acronym) => before ++ '_' :: acronym.map Char.toLower
  | none => name

/-- A capital that starts a run of small letters is split from the character before it, unless that
character is a line feed. The search goes on behind the run. -/
def splitCapitalised (name : List Char) : List Char :=
  match name with
  | c :: u :: l :: rest =>
    if c ≠ '\n' ∧ u.isUpper ∧ l.isLower then
      c :: '_' :: u :: l ::
        (rest.takeWhile Char.isLower ++ splitCapitalised (rest.dropWhile Char.isLower))
    else c :: splitCapitalised (u :: l :: rest)
  | short => short
termination_by name.length
decreasing_by
  · have := (List.dropWhile_suffix (l := rest) Char.isLower).length_le
    simp only [List.length_cons]
    omega
  · simp

/-- A capital is split from the small letter or digit before it. -/
def splitAfterSmall : List Char → List Char
  | c :: u :: rest =>
    if (c.isLower || c.isDigit) && u.isUpper then c :: '_' :: u :: splitAfterSmall rest
    else c :: splitAfterSmall (u :: rest)
  | short => short

/-- The snake-cased form of a name without underscores. -/
def snakeCaseChars (name : List Char) : List Char :=
  lowerText (splitAfterSmall (splitCapitalised (splitPluralAcronym name)))

/-- The snake-cased form of a camel-cased name: `CreateQueue` becomes `create_queue` and `ListARNs`
becomes `list_arns`. A name that has an underscore is left as it is. -/
def snakeCase (name : String) : String :=
  if '_' ∈ name.toList then name else String.ofList (snakeCaseChars name.toList)

theorem snakeCase_of_underscore {name : String} (h : '_' ∈ name.toList) :
    snakeCase name = name := by
  simp [snakeCase, h]

/-- The text with its first character in upper case. -/
def capitalise : List Char → List Char
  | [] => []
  | c :: rest => upperChar c ++ rest

/-- The parts between underscores, each with a capital, as one class name: `queue_urls` becomes
`QueueUrls`. -/
def classPrefix (name : String) : String :=
  String.ofList ((name.toList.splitOn '_').flatMap capitalise)

/-- The anchor that a documentation page gives to a heading. -/
def anchor (heading : String) : String :=
  let dashed := (trim heading.toList).map fun c => if c = ' ' then '-' else c
  String.ofList (lowerText (dashed.filter (· ≠ '.')))

end ResourceStubs.Naming
