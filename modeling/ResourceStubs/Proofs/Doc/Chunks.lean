import ResourceStubs.Doc.Wrap
import ResourceStubs.Proofs.Text.Words

/-! The chunks that a text is cut into. They are pieces of its words and single spaces between them,
and put together again they are the words of the text with a space between each two. -/

namespace ResourceStubs.Doc

open Text

/-- The chunk is a piece of a word: it has a character and no white space. -/
def IsPiece (chunk : Chunk) : Prop := chunk ≠ [] ∧ ∀ c ∈ chunk, isBlank c = false

theorem IsPiece.ne_spaceChunk {chunk : Chunk} (h : IsPiece chunk) : chunk ≠ spaceChunk := by
  rintro rfl
  have := h.2 ' ' (by simp [spaceChunk])
  simp [isBlank_space] at this

theorem dropSpace_of_isPiece {chunk : Chunk} (h : IsPiece chunk) (rest : List Chunk) :
    dropSpace (chunk :: rest) = chunk :: rest := by
  simp [dropSpace, h.ne_spaceChunk]

@[simp] theorem dropSpace_space (rest : List Chunk) : dropSpace (spaceChunk :: rest) = rest := by
  simp [dropSpace]

/-- The chunks are pieces of words and single spaces, and each space has a piece behind it. -/
inductive Laid : List Chunk → Prop where
  | nil : Laid []
  | piece {chunk : Chunk} {rest : List Chunk} (head : IsPiece chunk) (tail : Laid rest) :
      Laid (chunk :: rest)
  | space {chunk : Chunk} {rest : List Chunk} (next : IsPiece chunk) (tail : Laid rest) :
      Laid (spaceChunk :: chunk :: rest)

namespace Laid

variable {chunk : Chunk} {before rest all : List Chunk}

theorem tail_of_cons (h : Laid (chunk :: rest)) : Laid rest := by
  cases h with
  | piece _ tail => exact tail
  | space next tail => exact .piece next tail

theorem of_append (h : Laid (before ++ rest)) : Laid rest := by
  induction before with
  | nil => exact h
  | cons first before ih => exact ih h.tail_of_cons

theorem append_pieces (pieces : ∀ chunk ∈ before, IsPiece chunk) (h : Laid rest) :
    Laid (before ++ rest) := by
  induction before with
  | nil => exact h
  | cons first before ih =>
    exact .piece (pieces first (by simp)) (ih fun chunk hc => pieces chunk (by simp [hc]))

/-- A chunk that is no single space is a piece. -/
theorem isPiece_of_ne (h : Laid (chunk :: rest)) (ne : chunk ≠ spaceChunk) : IsPiece chunk := by
  cases h with
  | piece head _ => exact head
  | space => exact absurd rfl ne

theorem char (h : Laid all) {c : Char} (hc : c ∈ all.flatten) :
    c = ' ' ∨ isBlank c = false := by
  induction h with
  | nil => simp at hc
  | piece head _ ih =>
    obtain hc | hc := List.mem_append.mp hc
    · exact .inr (head.2 c hc)
    · exact ih hc
  | space next _ ih =>
    rw [List.flatten_cons, List.flatten_cons, List.mem_append, List.mem_append] at hc
    obtain hc | hc | hc := hc
    · exact .inl (by simpa [spaceChunk] using hc)
    · exact .inr (next.2 c hc)
    · exact ih hc

theorem ne_nil_of_mem (h : Laid all) (hc : chunk ∈ all) : chunk ≠ [] := by
  induction h with
  | nil => simp at hc
  | piece head _ ih =>
    obtain rfl | hc := List.mem_cons.mp hc
    · exact head.1
    · exact ih hc
  | space next _ ih =>
    rw [List.mem_cons, List.mem_cons] at hc
    obtain rfl | rfl | hc := hc
    · simp [spaceChunk]
    · exact next.1
    · exact ih hc

/-- The last character is one of a piece. -/
theorem solid_end (h : Laid all) (ne : all ≠ []) :
    ∃ c, all.flatten.getLast? = some c ∧ isBlank c = false := by
  have piece_end {chunk : Chunk} (piece : IsPiece chunk) :
      ∃ c, chunk.getLast? = some c ∧ isBlank c = false :=
    ⟨_, List.getLast?_eq_some_getLast piece.1, piece.2 _ (List.getLast_mem piece.1)⟩
  induction h with
  | nil => exact absurd rfl ne
  | @piece chunk rest head tail ih =>
    by_cases none : rest = []
    · simpa [none] using piece_end head
    · obtain ⟨c, hc, solid⟩ := ih none
      exact ⟨c, by rw [List.flatten_cons, List.getLast?_append, hc]; rfl, solid⟩
  | @space chunk rest next tail ih =>
    by_cases none : rest = []
    · obtain ⟨c, hc, solid⟩ := piece_end next
      exact ⟨c, by simp [none, List.getLast?_append, hc], solid⟩
    · obtain ⟨c, hc, solid⟩ := ih none
      refine ⟨c, ?_, solid⟩
      rw [List.flatten_cons, List.flatten_cons, List.getLast?_append, List.getLast?_append, hc]
      rfl

end Laid

/-! ### Cutting a word -/

theorem flatten_chunkIfAny (chunk : Chunk) : (chunkIfAny chunk).flatten = chunk := by
  cases chunk <;> simp [chunkIfAny]

theorem ne_nil_of_mem_chunkIfAny {chunk piece : Chunk} (h : piece ∈ chunkIfAny chunk) :
    piece ≠ [] := by
  cases chunk <;> simp_all [chunkIfAny]

/-- Cutting a word loses nothing of it. -/
theorem flatten_splitWord (seen begun word : List Char) :
    (splitWord seen begun word).flatten = begun.reverse ++ word := by
  fun_induction splitWord seen begun word with
  | case1 seen begun => simp [flatten_chunkIfAny]
  | case2 seen begun c rest hc ih => simp [ih]
  | case3 seen begun c rest hc dashes after run ih =>
    rw [List.flatten_append, List.flatten_cons, flatten_chunkIfAny, ih]
    simp [dashes, after, List.takeWhile_append_dropWhile]
  | case4 seen begun c rest hc dashes after run hyphen ih => simp [ih]
  | case5 seen begun c rest hc dashes after run hyphen ih => simp [ih]

theorem ne_nil_of_mem_splitWord {seen begun word : List Char} {chunk : Chunk}
    (h : chunk ∈ splitWord seen begun word) : chunk ≠ [] := by
  fun_induction splitWord seen begun word with
  | case1 seen begun => exact ne_nil_of_mem_chunkIfAny h
  | case2 seen begun c rest hc ih => exact ih h
  | case3 seen begun c rest hc dashes after run ih =>
    obtain h | h := List.mem_append.mp h
    · exact ne_nil_of_mem_chunkIfAny h
    · obtain rfl | h := List.mem_cons.mp h
      · simp [dashes]
      · exact ih h
  | case4 seen begun c rest hc dashes after run hyphen ih =>
    obtain rfl | h := List.mem_cons.mp h
    · simp
    · exact ih h
  | case5 seen begun c rest hc dashes after run hyphen ih => exact ih h

/-- A word is cut into pieces. -/
theorem splitWord_isPiece {word : List Char} (solid : ∀ c ∈ word, isBlank c = false)
    {chunk : Chunk} (h : chunk ∈ splitWord [] [] word) : IsPiece chunk := by
  refine ⟨ne_nil_of_mem_splitWord h, fun c hc => solid c ?_⟩
  have := List.mem_flatten.mpr ⟨chunk, h, hc⟩
  simpa [flatten_splitWord] using this

theorem splitWord_ne_nil {word : List Char} (h : word ≠ []) : splitWord [] [] word ≠ [] := by
  intro none
  have := flatten_splitWord [] [] word
  rw [none] at this
  exact h (by simpa using this.symm)

/-! ### The chunks of a text -/

theorem laid_intercalate {groups : List (List Chunk)}
    (h : ∀ group ∈ groups, group ≠ [] ∧ ∀ chunk ∈ group, IsPiece chunk) :
    Laid ([spaceChunk].intercalate groups) := by
  induction groups with
  | nil => exact .nil
  | cons group groups ih =>
    have pieces := (h group (by simp)).2
    have below := ih fun g hg => h g (by simp [hg])
    cases groups with
    | nil => simpa using Laid.nil.append_pieces pieces
    | cons next groups =>
      rw [List.intercalate_cons_cons, List.append_assoc]
      refine Laid.append_pieces pieces ?_
      -- The space is followed by the first piece of the next word.
      obtain ⟨some_chunk, nextPieces⟩ := h next (by simp)
      obtain ⟨first, more, rfl⟩ := List.exists_cons_of_ne_nil some_chunk
      have split : [spaceChunk].intercalate ((first :: more) :: groups) =
          first :: [spaceChunk].intercalate (more :: groups) := by
        cases groups <;> simp [List.intercalate_cons_cons]
      rw [split] at below ⊢
      exact .space (nextPieces first (by simp)) below.tail_of_cons

theorem laid_chunks (cs : List Char) : Laid (chunks cs) := by
  refine laid_intercalate fun group hg => ?_
  obtain ⟨word, hw, rfl⟩ := List.mem_map.mp hg
  obtain ⟨ne, solid⟩ := words_solid hw
  exact ⟨splitWord_ne_nil ne, fun chunk hc => splitWord_isPiece solid hc⟩

theorem flatten_intercalate_space (groups : List (List Chunk)) :
    ([spaceChunk].intercalate groups).flatten = [' '].intercalate (groups.map List.flatten) := by
  induction groups with
  | nil => rfl
  | cons group groups ih =>
    cases groups with
    | nil => simp
    | cons next groups =>
      rw [List.intercalate_cons_cons, List.flatten_append, ih]
      simp [List.intercalate_cons_cons, spaceChunk]

/-- The chunks of a text are its words with a space between each two. -/
theorem flatten_chunks (cs : List Char) : (chunks cs).flatten = [' '].intercalate (words cs) := by
  rw [chunks, flatten_intercalate_space, List.map_map]
  congr 1
  refine (List.map_congr_left fun word _ => ?_).trans (List.map_id _)
  simp [flatten_splitWord]

theorem solid_flatten_chunks (cs : List Char) : solid (chunks cs).flatten = solid cs := by
  rw [flatten_chunks, solid_intercalate isBlank_space, flatten_words]
  exact solid_eq_self_iff.mpr fun c hc => by simpa [solid] using (List.mem_filter.mp hc).2

/-- The first chunk is a piece of the first word. -/
theorem isPiece_of_head?_chunks {cs : List Char} {chunk : Chunk}
    (h : (chunks cs).head? = some chunk) : IsPiece chunk := by
  cases hw : words cs with
  | nil => simp [chunks, hw] at h
  | cons word others =>
    obtain ⟨ne, solid⟩ := words_solid (hw ▸ List.mem_cons_self : word ∈ words cs)
    obtain ⟨first, more, eq⟩ := List.exists_cons_of_ne_nil (splitWord_ne_nil ne)
    have first_of : (chunks cs).head? = some first := by
      cases others <;> simp [chunks, hw, eq, List.intercalate_cons_cons]
    obtain rfl : first = chunk := Option.some.inj (first_of.symm.trans h)
    exact splitWord_isPiece solid (eq ▸ List.mem_cons_self)

/-! ### Spaces and words -/

/-- A chunk stands either among those in front or behind them. -/
theorem append_eq_append_cons_cases {chunk : Chunk} {line others before after : List Chunk}
    (h : line ++ others = before ++ chunk :: after) :
    (∃ more, line = before ++ chunk :: more) ∨
      ∃ between, before = line ++ between ∧ others = between ++ chunk :: after := by
  obtain ⟨between, rfl, eq⟩ | ⟨more, rfl, eq⟩ := List.append_eq_append_iff.mp h
  · exact .inr ⟨between, rfl, eq⟩
  · cases more with
    | nil => exact .inr ⟨[], by simp, by simpa using eq.symm⟩
    | cons first more =>
      obtain ⟨rfl, -⟩ := List.cons_eq_cons.mp eq
      exact .inl ⟨more, rfl⟩

theorem intercalate_space_append {before after : List (List Chunk)} (some_before : before ≠ [])
    (some_after : after ≠ []) :
    [spaceChunk].intercalate (before ++ after) =
      [spaceChunk].intercalate before ++ spaceChunk :: [spaceChunk].intercalate after := by
  obtain ⟨first, before, rfl⟩ := List.exists_cons_of_ne_nil some_before
  obtain ⟨next, after, rfl⟩ := List.exists_cons_of_ne_nil some_after
  induction before generalizing first with
  | nil => simp [List.intercalate_cons_cons]
  | cons second before ih =>
    have := ih second (List.cons_ne_nil _ _)
    rw [List.cons_append, List.cons_append, List.intercalate_cons_cons, ← List.cons_append, this]
    simp [List.intercalate_cons_cons]

theorem ne_append_space_of_pieces {group : List Chunk} (pieces : ∀ chunk ∈ group, IsPiece chunk)
    (before after : List Chunk) : group ≠ before ++ spaceChunk :: after := by
  rintro rfl
  exact (pieces spaceChunk (by simp)).ne_spaceChunk rfl

/-- A space stands between two groups of pieces. -/
theorem exists_of_intercalate_space {groups : List (List Chunk)} {before after : List Chunk}
    (pieces : ∀ group ∈ groups, ∀ chunk ∈ group, IsPiece chunk)
    (h : [spaceChunk].intercalate groups = before ++ spaceChunk :: after) :
    ∃ front back, groups = front ++ back ∧ front ≠ [] ∧ back ≠ [] ∧
      [spaceChunk].intercalate front = before ∧ [spaceChunk].intercalate back = after := by
  induction groups generalizing before with
  | nil => simp at h
  | cons group groups ih =>
    cases groups with
    | nil =>
      rw [List.intercalate_singleton] at h
      exact absurd h (ne_append_space_of_pieces (pieces group (by simp)) before after)
    | cons next groups =>
      rw [List.intercalate_cons_cons, List.append_assoc] at h
      obtain ⟨more, eq⟩ | ⟨between, rfl, eq⟩ := append_eq_append_cons_cases h
      · exact absurd eq (ne_append_space_of_pieces (pieces group (by simp)) before more)
      · cases between with
        | nil =>
          refine ⟨[group], next :: groups, rfl, by simp, by simp, by simp, ?_⟩
          exact (List.cons_eq_cons.mp eq).2
        | cons first between =>
          obtain ⟨rfl, below⟩ := List.cons_eq_cons.mp eq
          obtain ⟨front, back, eqGroups, some_front, some_back, eqFront, eqBack⟩ :=
            ih (fun g hg => pieces g (by simp [hg])) below
          refine ⟨group :: front, back, by rw [eqGroups, List.cons_append], by simp, some_back, ?_,
            eqBack⟩
          obtain ⟨second, front, rfl⟩ := List.exists_cons_of_ne_nil some_front
          rw [List.intercalate_cons_cons, eqFront]
          simp

/-- White space between two words is a space between their chunks. -/
theorem chunks_append_blank {left right : List Char} {blank : Char}
    (hblank : isBlank blank = true) (some_left : words left ≠ []) (some_right : words right ≠ []) :
    chunks (left ++ blank :: right) = chunks left ++ spaceChunk :: chunks right := by
  rw [chunks, words_append_blank hblank, List.map_append, intercalate_space_append]
  · rfl
  · simpa using some_left
  · simpa using some_right

/-- A space among the chunks stands for white space of the text. -/
theorem exists_of_chunks_eq {cs : List Char} {before after : List Chunk}
    (h : chunks cs = before ++ spaceChunk :: after) :
    ∃ left blank right, cs = left ++ blank :: right ∧ isBlank blank = true ∧
      chunks left = before ∧ chunks right = after := by
  obtain ⟨front, back, eq, some_front, some_back, eqFront, eqBack⟩ :=
    exists_of_intercalate_space (fun group hg chunk hc => by
      obtain ⟨word, hw, rfl⟩ := List.mem_map.mp hg
      exact splitWord_isPiece (words_solid hw).2 hc) h
  obtain ⟨before', after', eqWords, rfl, rfl⟩ := List.map_eq_append_iff.mp eq
  obtain ⟨left, blank, right, rfl, hblank, rfl, rfl⟩ := exists_of_words_eq_append eqWords
    (by simpa using some_front) (by simpa using some_back)
  exact ⟨left, blank, right, rfl, hblank, eqFront, eqBack⟩

end ResourceStubs.Doc
