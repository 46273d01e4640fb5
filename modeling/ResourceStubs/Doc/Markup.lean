import ResourceStubs.Text.Blank
import ResourceStubs.Text.Replace

/-! Plain text of the marked-up documentation that service documents carry: block tags end a line,
other tags vanish, the five entities stand for their characters, and lines are trimmed. -/

namespace ResourceStubs.Doc

open Text

/-- The tags, opening or closing, that end a line. -/
def blockTags : List (List Char) :=
  ["p", "li", "ul", "ol", "br", "div", "note", "important"].map String.toList

/-- The text without one slash at its start. -/
def skipSlash : List Char → List Char
  | '/' :: rest => rest
  | cs => cs

theorem length_skipSlash_le (cs : List Char) : (skipSlash cs).length ≤ cs.length := by
  unfold skipSlash
  split <;> simp

/-- The text behind the `<` of a block tag without attributes, continued behind that tag. -/
def blockTagRest? (cs : List Char) : Option (List Char) :=
  let named := skipSlash cs
  if (named.takeWhile Char.isAlpha).map Char.toLower ∈ blockTags then
    match skipSlash ((named.dropWhile Char.isAlpha).dropWhile isBlank) with
    | '>' :: rest => some rest
    | _ => none
  else none

theorem length_of_blockTagRest? {cs rest : List Char} (h : blockTagRest? cs = some rest) :
    rest.length < cs.length := by
  unfold blockTagRest? at h
  simp only at h
  split at h
  · split at h
    · rename_i tail eq
      have h1 := length_skipSlash_le (((skipSlash cs).dropWhile Char.isAlpha).dropWhile isBlank)
      have h2 := (List.dropWhile_suffix (l := (skipSlash cs).dropWhile Char.isAlpha)
        isBlank).length_le
      have h3 := (List.dropWhile_suffix (l := skipSlash cs) Char.isAlpha).length_le
      have h4 := length_skipSlash_le cs
      rw [eq] at h1
      simp only [List.length_cons, Option.some.injEq] at h1 h
      subst h
      omega
    · simp at h
  · simp at h

/-- Each block tag becomes a line feed. -/
def breakBlocks (cs : List Char) : List Char :=
  match cs with
  | [] => []
  | c :: rest =>
    if c = '<' then
      match _found : blockTagRest? rest with
      | some after => '\n' :: breakBlocks after
      | none => c :: breakBlocks rest
    else c :: breakBlocks rest
termination_by cs.length
decreasing_by
  · have := length_of_blockTagRest? _found
    simp only [List.length_cons]
    omega
  · simp
  · simp

/-- Everything from a `<` to the next `>` is dropped. -/
def dropTags (cs : List Char) : List Char :=
  match cs with
  | [] => []
  | c :: rest =>
    if c = '<' ∧ '>' ∈ rest then dropTags (rest.dropWhile (· ≠ '>')).tail
    else c :: dropTags rest
termination_by cs.length
decreasing_by
  · have := (List.dropWhile_suffix (l := rest) (· ≠ '>')).length_le
    simp only [List.length_tail, List.length_cons]
    omega
  · simp

/-- The entities in the order they are decoded; the ampersand comes last, so that no entity is
decoded twice. -/
def entities : List (List Char × Char) :=
  [("&lt;".toList, '<'), ("&gt;".toList, '>'), ("&quot;".toList, '"'), ("&#39;".toList, '\''),
    ("&amp;".toList, '&')]

/-- Each entity becomes its character. -/
def decodeEntities (cs : List Char) : List Char :=
  entities.foldl (fun text entity => replaceAll entity.1 [entity.2] text) cs

/-- The lines of a text, trimmed and without the empty ones. -/
def trimmedLines (cs : List Char) : List (List Char) :=
  ((cs.splitOn '\n').map trim).filter (· ≠ [])

/-- The plain text of a documentation fragment. -/
def plainText (cs : List Char) : List Char :=
  ['\n'].intercalate (trimmedLines (decodeEntities (dropTags (breakBlocks cs))))

/-- The plain text of a documentation fragment. -/
def stripTags (markup : String) : String := String.ofList (plainText markup.toList)

end ResourceStubs.Doc
