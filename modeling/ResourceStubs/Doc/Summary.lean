import ResourceStubs.Doc.Wrap
import ResourceStubs.Text.Replace

/-! The summary of a method: the first sentence of its documentation, closed and wrapped. -/

namespace ResourceStubs.Doc

open Text

/-- Characters of documentation that a summary is made from, unless told otherwise. -/
def defaultLimit : Nat := 300

/-- Columns of a summary line. -/
def summaryWidth : Nat := 80

/-- A text longer than `limit` gives up its end for three full stops. -/
def cutToLimit (limit : Nat) (cs : List Char) : List Char :=
  if limit < cs.length then cs.take (limit - 3) ++ ['.', '.', '.'] else cs

/-- The line trimmed, and then without the colons at its end. -/
def headingText (line : List Char) : List Char :=
  ((trim line).reverse.dropWhile (· == ':')).reverse

/-- The lines up to the end of the first sentence. A line that starts with a colon ends the text
before it. -/
def firstSentence : List (List Char) → List (List Char)
  | [] => []
  | raw :: rest =>
    let line := headingText raw
    if line.head? = some ':' then []
    else if line.isEmpty then firstSentence rest
    else match splitOnce? ['.', ' '] line with
      | some (sentence, _) => [sentence]
      | none => line :: if line.getLast? = some '.' then [] else firstSentence rest

/-- The mark around a code word. -/
def codeMark : Char := '\x60'

/-- Marks of three and of two become single. -/
def singleMarks (cs : List Char) : List Char :=
  replaceAll (List.replicate 2 codeMark) [codeMark]
    (replaceAll (List.replicate 3 codeMark) [codeMark] cs)

/-- A code word that is not closed is closed. -/
def closeCode (cs : List Char) : List Char :=
  if cs.count codeMark % 2 = 1 then cs ++ [codeMark] else cs

/-- A text that does not end in a full stop gets one, unless it is empty. -/
def closeSentence (cs : List Char) : List Char :=
  if cs ≠ [] ∧ cs.getLast? ≠ some '.' then cs ++ ['.'] else cs

/-- The summary before it is wrapped. -/
def summarySentence (limit : Nat) (cs : List Char) : List Char :=
  let sentence := [' '].intercalate (firstSentence ((cutToLimit limit cs).splitOn '\n'))
  closeSentence (closeCode (trim (singleMarks sentence)))

/-- The lines of the summary of a text of which at most `limit` characters are read. -/
def summaryLines (limit : Nat) (cs : List Char) : List (List Char) :=
  wrap summaryWidth (summarySentence limit cs)

/-- The summary of a documentation text of which at most `limit` characters are read. -/
def summary (limit : Nat) (documentation : String) : String :=
  String.ofList (['\n'].intercalate (summaryLines limit documentation.toList))

end ResourceStubs.Doc
