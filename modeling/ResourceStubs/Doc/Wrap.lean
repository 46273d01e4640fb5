import ResourceStubs.Text.Numeric
import ResourceStubs.Text.Blank

/-! Greedy line breaking. A text is cut into chunks, words or the parts of a word between which a
line may end, and each line takes as many chunks as fit. A chunk wider than a line is cut. -/

namespace ResourceStubs.Doc

open Text

/-- A piece of text that stays on one line if it fits. -/
abbrev Chunk := List Char

/-- A letter or an underscore. -/
def isLetter (c : Char) : Bool := isAlphabetic c || c == '_'

/-- A letter, a digit or an underscore. -/
def isWordChar (c : Char) : Bool := isAlphanumeric c || c == '_'

/-- A character that a word may have before a dash. -/
def isWordEnd (c : Char) : Bool := isWordChar c || "!\"'&.,?".toList.contains c

/-- Two letters, or letter, hyphen and letter, stand nearest in `cs`. -/
def lettersNext : List Char → Bool
  | a :: b :: rest => isLetter a && (isLetter b || (b == '-' && rest.head?.any isLetter))
  | _ => false

/-- The chunk as a list, unless it is empty. -/
def chunkIfAny (chunk : Chunk) : List Chunk := if chunk.isEmpty then [] else [chunk]

/-- The chunks of the rest of a word. `seen` is the word up to here and `begun` the chunk begun,
both last character first. A run of two or more dashes between words is a chunk of its own, and a
hyphen between letters ends one. -/
def splitWord (seen begun : List Char) (word : List Char) : List Chunk :=
  match word with
  | [] => chunkIfAny begun.reverse
  | c :: rest =>
    if c ≠ '-' then splitWord (c :: seen) (c :: begun) rest
    else
      let dashes := c :: rest.takeWhile (· == '-')
      let after := rest.dropWhile (· == '-')
      if 2 ≤ dashes.length && seen.head?.any isWordEnd && after.head?.any isWordChar then
        chunkIfAny begun.reverse ++ dashes :: splitWord (dashes.reverse ++ seen) [] after
      else if !begun.isEmpty && lettersNext seen && lettersNext rest then
        (c :: begun).reverse :: splitWord (c :: seen) [] rest
      else splitWord (c :: seen) (c :: begun) rest
termination_by word.length
decreasing_by
  · simp
  · have := (List.dropWhile_suffix (l := rest) (· == '-')).length_le
    simp only [List.length_cons]
    omega
  · simp
  · simp

/-- The space between two words. -/
def spaceChunk : Chunk := [' ']

/-- The chunks of a text: those of its words, with one space between words. -/
def chunks (cs : List Char) : List Chunk :=
  [spaceChunk].intercalate ((words cs).map (splitWord [] []))

/-- The chunks that fit on a line of which `used` columns are taken, and the others. -/
def fill (width used : Nat) : List Chunk → List Chunk × List Chunk
  | [] => ([], [])
  | chunk :: rest =>
    if width < used + chunk.length then ([], chunk :: rest)
    else
      let (line, others) := fill width (used + chunk.length) rest
      (chunk :: line, others)

/-- How much of a chunk that is too wide goes on a line with `room` columns left: up to the last
hyphen in reach that has something else before it, or else all of the room. -/
def cutPoint (room : Nat) (chunk : Chunk) : Nat :=
  let hyphenated := ((chunk.take room).reverse.dropWhile (· ≠ '-')).reverse
  if hyphenated.any (· ≠ '-') then hyphenated.length else room

/-- One line's chunks and the chunks left for the next lines. -/
def takeLine (width : Nat) (all : List Chunk) : List Chunk × List Chunk :=
  match fill width 0 all with
  | (line, chunk :: rest) =>
    if width < chunk.length then
      let room := if width < 1 then 1 else width - line.flatten.length
      let cut := cutPoint room chunk
      (line ++ [chunk.take cut], chunk.drop cut :: rest)
    else (line, chunk :: rest)
  | (line, []) => (line, [])

/-- The line without a final chunk that is blank. -/
def dropBlankEnd (line : List Chunk) : List Chunk :=
  match line.getLast? with
  | some last => if last.all isBlank then line.dropLast else line
  | none => line

/-- The chunks without a space at their start. -/
def dropSpace : List Chunk → List Chunk
  | chunk :: rest => if chunk = spaceChunk then rest else chunk :: rest
  | [] => []

/-- Characters and chunks yet to be set. -/
def chunksSize : List Chunk → Nat
  | [] => 0
  | chunk :: rest => chunk.length + 1 + chunksSize rest

theorem chunksSize_dropSpace_le (all : List Chunk) :
    chunksSize (dropSpace all) ≤ chunksSize all := by
  unfold dropSpace
  split
  · split <;> simp [chunksSize]
  · simp

theorem chunksSize_fill (width used : Nat) (all : List Chunk) :
    chunksSize (fill width used all).1 + chunksSize (fill width used all).2 = chunksSize all := by
  induction all generalizing used with
  | nil => simp [fill, chunksSize]
  | cons chunk rest ih =>
    simp only [fill]
    split
    · simp [chunksSize]
    · have := ih (used + chunk.length)
      simp only [chunksSize] at this ⊢
      omega

/-- A chunk left over by an empty line does not fit on a line at all. -/
theorem width_lt_of_fill_nil {width : Nat} {all rest : List Chunk} {chunk : Chunk}
    (h : fill width 0 all = ([], chunk :: rest)) : width < chunk.length := by
  cases all with
  | nil => simp [fill] at h
  | cons first others =>
    simp only [fill] at h
    split at h
    · simp_all
    · simp at h

theorem cutPoint_pos {room : Nat} (h : 0 < room) (chunk : Chunk) : 0 < cutPoint room chunk := by
  unfold cutPoint
  simp only
  split
  · rename_i some_other
    rw [List.any_eq_true] at some_other
    obtain ⟨c, hc, _⟩ := some_other
    exact List.length_pos_of_mem hc
  · exact h

theorem chunksSize_takeLine_lt (width : Nat) {all : List Chunk} (h : all ≠ []) :
    chunksSize (takeLine width all).2 < chunksSize all := by
  have fits := chunksSize_fill width 0 all
  unfold takeLine
  split
  · rename_i line chunk rest eq
    rw [eq] at fits
    cases line with
    | nil =>
      have wide := width_lt_of_fill_nil eq
      have room : 0 < if width < 1 then 1 else width - (List.flatten ([] : List Chunk)).length := by
        split <;> simp
        omega
      have cut := cutPoint_pos room chunk
      simp only [wide, if_true]
      simp [chunksSize] at *
      omega
    | cons first others =>
      split <;> simp [chunksSize] at * <;> omega
  · cases all with
    | nil => exact absurd rfl h
    | cons first others =>
      simp only [chunksSize]
      omega

/-- The chunks that a line is made from: below another line, without the space that it replaces. -/
def lineStart (started : Bool) (all : List Chunk) : List Chunk :=
  if started then dropSpace all else all

theorem chunksSize_lineStart_le (started : Bool) (all : List Chunk) :
    chunksSize (lineStart started all) ≤ chunksSize all := by
  unfold lineStart
  split
  · exact chunksSize_dropSpace_le all
  · exact Nat.le_refl _

theorem chunksSize_nextLine_lt (width : Nat) (started : Bool) {all : List Chunk} (h : all ≠ []) :
    chunksSize (takeLine width (lineStart started all)).2 < chunksSize all := by
  by_cases empty : lineStart started all = []
  · cases all with
    | nil => exact absurd rfl h
    | cons first others =>
      rw [empty]
      simp only [takeLine, fill, chunksSize]
      omega
  · exact Nat.lt_of_lt_of_le (chunksSize_takeLine_lt width empty) (chunksSize_lineStart_le _ _)

/-- The lines for the chunks that are left; `started` when there is a line above them. -/
def wrapFrom (width : Nat) (started : Bool) (all : List Chunk) : List (List Char) :=
  match all with
  | [] => []
  | first :: others =>
    let parts := takeLine width (lineStart started (first :: others))
    let line := dropBlankEnd parts.1
    if line.isEmpty then wrapFrom width started parts.2
    else line.flatten :: wrapFrom width true parts.2
termination_by chunksSize all
decreasing_by all_goals exact chunksSize_nextLine_lt width started (by simp)

/-- The lines of a text, none wider than `width` unless that is zero. -/
def wrap (width : Nat) (cs : List Char) : List (List Char) := wrapFrom width false (chunks cs)

end ResourceStubs.Doc
