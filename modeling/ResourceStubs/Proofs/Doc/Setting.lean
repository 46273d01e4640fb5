import ResourceStubs.Proofs.Doc.Lines

/-! Lines filled greedily. A line takes chunks up to the last one there is, or up to one that fits
on a line but not on the rest of this one, or up to one that is wider than a line and cut. There is
an equation for the lines in each case, and an induction over all lines with these cases. -/

namespace ResourceStubs.Doc

open Text

variable {width : Nat} {all line rest : List Chunk} {chunk : Chunk}

/-! ### The end of a line -/

theorem dropBlankEnd_append_piece (piece : IsPiece chunk) (line : List Chunk) :
    dropBlankEnd (line ++ [chunk]) = line ++ [chunk] := by
  obtain ⟨c, more, rfl⟩ := List.exists_cons_of_ne_nil piece.1
  simp [dropBlankEnd, piece.2 c]

@[simp] theorem dropBlankEnd_append_space (line : List Chunk) :
    dropBlankEnd (line ++ [spaceChunk]) = line := by
  simp [dropBlankEnd, spaceChunk, isBlank_space]

/-- The empty start of a cut chunk is dropped like white space. -/
@[simp] theorem dropBlankEnd_append_nil (line : List Chunk) :
    dropBlankEnd (line ++ [[]]) = line := by
  simp [dropBlankEnd]

/-- The last chunk of all is a piece. -/
theorem Laid.last_isPiece (laid : Laid (line ++ [chunk])) : IsPiece chunk := by
  refine laid.of_append.isPiece_of_ne fun space => ?_
  obtain ⟨c, hc, solid⟩ := laid.solid_end (by simp)
  rw [space, List.flatten_append, List.getLast?_append] at hc
  obtain rfl : ' ' = c := by simpa [spaceChunk] using hc
  simp [isBlank_space] at solid

theorem Laid.dropBlankEnd_eq (laid : Laid all) : dropBlankEnd all = all := by
  obtain rfl | ⟨before, last, rfl⟩ := List.eq_nil_or_concat' all
  · rfl
  · exact dropBlankEnd_append_piece laid.last_isPiece before

/-! ### The chunks for a line -/

theorem fill_of_fits {used : Nat} (fits : used + all.flatten.length ≤ width) :
    fill width used all = (all, []) := by
  induction all generalizing used with
  | nil => rfl
  | cons first more ih =>
    rw [List.flatten_cons, List.length_append] at fits
    rw [fill, if_neg (by omega), ih (by omega)]

theorem fill_append_cons {used : Nat} (fits : used + line.flatten.length ≤ width)
    (exceeds : width < used + line.flatten.length + chunk.length) :
    fill width used (line ++ chunk :: rest) = (line, chunk :: rest) := by
  induction line generalizing used with
  | nil => simpa [fill] using exceeds
  | cons first more ih =>
    rw [List.flatten_cons, List.length_append] at fits exceeds
    rw [List.cons_append, fill, if_neg (by omega), ih (by omega) (by omega)]

/-- The first chunk that is left does not fit behind those taken. -/
theorem lt_of_head?_fill {used : Nat} (h : (fill width used all).2.head? = some chunk) :
    width < used + (fill width used all).1.flatten.length + chunk.length := by
  induction all generalizing used with
  | nil => simp [fill] at h
  | cons first more ih =>
    rw [fill] at h ⊢
    split at h
    next exceeds =>
      obtain rfl : first = chunk := by simpa using h
      simp [exceeds]
    next fits =>
      have := ih h
      rw [if_neg fits, List.flatten_cons, List.length_append]
      omega

/-- The line and the chunk that does not fit behind it, although it would fit on a line of its
own. -/
structure Full (width : Nat) (line : List Chunk) (chunk : Chunk) (rest : List Chunk) : Prop where
  laid : Laid (line ++ chunk :: rest)
  ready : Ready (line ++ chunk :: rest)
  fits : line.flatten.length ≤ width
  exceeds : width < line.flatten.length + chunk.length
  narrow : chunk.length ≤ width

/-- The line and a chunk behind it that is wider than a line. -/
structure Cut (width : Nat) (line : List Chunk) (chunk : Chunk) (rest : List Chunk) : Prop where
  laid : Laid (line ++ chunk :: rest)
  ready : Ready (line ++ chunk :: rest)
  fits : line.flatten.length ≤ width
  wide : width < chunk.length

theorem fill_cases (width : Nat) (laid : Laid all) (ready : Ready all) :
    all.flatten.length ≤ width ∨ ∃ line chunk rest, all = line ++ chunk :: rest ∧
      (Full width line chunk rest ∨ Cut width line chunk rest) := by
  have split := fill_append width 0 all
  have fits := length_fill_le (Nat.zero_le width) all
  have exceeds : ∀ chunk, (fill width 0 all).2.head? = some chunk →
      width < (fill width 0 all).1.flatten.length + chunk.length := fun chunk h => by
    simpa using lt_of_head?_fill h
  rw [Nat.zero_add] at fits
  generalize fill width 0 all = parts at *
  obtain ⟨line, left⟩ := parts
  cases left with
  | nil => exact .inl (by simpa [← split] using fits)
  | cons chunk rest =>
    subst split
    have exceeds := exceeds chunk rfl
    refine .inr ⟨line, chunk, rest, rfl, ?_⟩
    by_cases narrow : chunk.length ≤ width
    · exact .inl ⟨laid, ready, fits, exceeds, narrow⟩
    · exact .inr ⟨laid, ready, fits, by omega⟩

/-! ### The lines -/

theorem chunksSize_append (before after : List Chunk) :
    chunksSize (before ++ after) = chunksSize before + chunksSize after := by
  induction before with
  | nil => simp [chunksSize]
  | cons first more ih =>
    rw [List.cons_append, chunksSize, chunksSize, ih]
    omega

theorem dropSpace_cons_append (first : Chunk) (more others : List Chunk) :
    dropSpace (first :: (more ++ others)) = dropSpace (first :: more) ++ others := by
  rw [dropSpace, dropSpace]
  split <;> rfl

@[simp] theorem lineStart_false (all : List Chunk) : lineStart false all = all := rfl

@[simp] theorem lineStart_true (all : List Chunk) : lineStart true all = dropSpace all := rfl

theorem wrapFrom_nil (width : Nat) (started : Bool) : wrapFrom width started [] = [] := by
  rw [wrapFrom]

/-- One line, and below it the lines of what is left without the space at its start. -/
theorem wrapFrom_of_ne_nil (started : Bool) (hw : 0 < width) (laid : Laid all) (ne : all ≠ [])
    (ready : Ready (lineStart started all)) :
    wrapFrom width started all =
      (dropBlankEnd (takeLine width (lineStart started all)).1).flatten ::
        wrapFrom width true (takeLine width (lineStart started all)).2 := by
  obtain ⟨c, hc, -⟩ := (firstLine_lineStart hw laid ne ready).solid_start
  obtain ⟨first, more, rfl⟩ := List.exists_cons_of_ne_nil ne
  rw [wrapFrom]
  refine if_neg fun empty => ?_
  rw [List.isEmpty_iff.mp empty] at hc
  cases hc

/-- Below another line the space at the start is dropped, and that is all the difference. -/
theorem wrapFrom_true (hw : 0 < width) (laid : Laid all) :
    wrapFrom width true all = wrapFrom width false (dropSpace all) := by
  by_cases ne : all = []
  · simp [ne, dropSpace, wrapFrom_nil]
  · obtain ⟨laidStart, neStart, -⟩ := laid.lineStart ne true
    rw [lineStart_true] at laidStart neStart
    rw [wrapFrom_of_ne_nil true hw laid ne laid.ready_dropSpace,
      lineStart_true, wrapFrom_of_ne_nil false hw laidStart neStart laid.ready_dropSpace,
      lineStart_false]

/-- The chunks fit on one line. -/
theorem wrapFrom_of_fits (hw : 0 < width) (laid : Laid all) (ready : Ready all) (ne : all ≠ [])
    (fits : all.flatten.length ≤ width) : wrapFrom width false all = [all.flatten] := by
  have taken : takeLine width all = (all, []) := by
    rw [takeLine, fill_of_fits (by omega)]
  rw [wrapFrom_of_ne_nil false hw laid ne ready, lineStart_false, taken,
    laid.dropBlankEnd_eq, wrapFrom_nil]

namespace Full

theorem ne_nil (h : Full width line chunk rest) : line ≠ [] := by
  rintro rfl
  have := h.exceeds
  have := h.narrow
  rw [List.flatten_nil, List.length_nil] at *
  omega

theorem laid_below (h : Full width line chunk rest) : Laid (dropSpace (chunk :: rest)) :=
  (h.laid.of_append.lineStart (List.cons_ne_nil _ _) true).1

theorem size_lt (h : Full width line chunk rest) :
    chunksSize (dropSpace (chunk :: rest)) < chunksSize (line ++ chunk :: rest) := by
  have below := chunksSize_dropSpace_le (chunk :: rest)
  obtain ⟨first, more, rfl⟩ := List.exists_cons_of_ne_nil h.ne_nil
  rw [chunksSize_append, chunksSize]
  omega

theorem wrapFrom_eq (hw : 0 < width) (h : Full width line chunk rest) :
    wrapFrom width false (line ++ chunk :: rest) =
      (dropBlankEnd line).flatten :: wrapFrom width false (dropSpace (chunk :: rest)) := by
  have taken : takeLine width (line ++ chunk :: rest) = (line, chunk :: rest) := by
    rw [takeLine, fill_append_cons (by simpa using h.fits) (by simpa using h.exceeds)]
    exact if_neg (by have := h.narrow; omega)
  rw [wrapFrom_of_ne_nil false hw h.laid (by simp) h.ready, lineStart_false, taken,
    wrapFrom_true hw h.laid.of_append]

end Full

/-- Columns of a line that a chunk wider than a line is cut to. -/
abbrev cutBehind (width : Nat) (line : List Chunk) (chunk : Chunk) : Nat :=
  cutPoint (width - line.flatten.length) chunk

namespace Cut

theorem isPiece (hw : 0 < width) (h : Cut width line chunk rest) : IsPiece chunk :=
  h.laid.of_append.isPiece_of_ne fun space => by
    have := h.wide
    rw [space, spaceChunk, List.length_singleton] at this
    omega

theorem length_add_cut_le (h : Cut width line chunk rest) :
    line.flatten.length + cutBehind width line chunk ≤ width := by
  have := h.fits
  have : cutBehind width line chunk ≤ width - line.flatten.length := cutPoint_le _ chunk
  omega

theorem cut_lt (h : Cut width line chunk rest) : cutBehind width line chunk < chunk.length := by
  have := h.wide
  have := h.length_add_cut_le
  omega

theorem cut_isPiece (hw : 0 < width) (h : Cut width line chunk rest) :
    IsPiece (chunk.drop (cutBehind width line chunk)) :=
  ⟨by simpa using h.cut_lt, fun c hc => (h.isPiece hw).2 c (List.mem_of_mem_drop hc)⟩

theorem laid_below (hw : 0 < width) (h : Cut width line chunk rest) :
    Laid (chunk.drop (cutBehind width line chunk) :: rest) :=
  .piece (h.cut_isPiece hw) h.laid.of_append.tail_of_cons

theorem ready_below (hw : 0 < width) (h : Cut width line chunk rest) :
    Ready (chunk.drop (cutBehind width line chunk) :: rest) := by
  simpa [Ready] using h.cut_isPiece hw

/-- A line takes a chunk, or some of the chunk that is cut. -/
theorem size_lt (hw : 0 < width) (h : Cut width line chunk rest) :
    chunksSize (chunk.drop (cutBehind width line chunk) :: rest) <
      chunksSize (line ++ chunk :: rest) := by
  have := h.cut_lt
  cases line with
  | nil =>
    have : 0 < cutBehind width [] chunk := cutPoint_pos (by simpa using hw) chunk
    rw [List.nil_append, chunksSize, chunksSize, List.length_drop]
    omega
  | cons first more =>
    rw [chunksSize_append, chunksSize, chunksSize, chunksSize, List.length_drop]
    omega

theorem wrapFrom_eq (hw : 0 < width) (h : Cut width line chunk rest) :
    wrapFrom width false (line ++ chunk :: rest) =
      (dropBlankEnd (line ++ [chunk.take (cutBehind width line chunk)])).flatten ::
        wrapFrom width false (chunk.drop (cutBehind width line chunk) :: rest) := by
  have wide := h.wide
  have taken : takeLine width (line ++ chunk :: rest) =
      (line ++ [chunk.take (cutBehind width line chunk)],
        chunk.drop (cutBehind width line chunk) :: rest) := by
    rw [takeLine, fill_append_cons (by simpa using h.fits) (by omega)]
    simp only [wide, if_true, if_neg (show ¬width < 1 by omega), cutBehind]
  rw [wrapFrom_of_ne_nil false hw h.laid (by simp) h.ready, lineStart_false, taken,
    wrapFrom_true hw (h.laid_below hw),
    dropSpace_of_isPiece (h.cut_isPiece hw)]

end Cut

/-- Induction over the lines of chunks that start with a piece, by how the first line ends. -/
@[elab_as_elim]
theorem Laid.lines_induction (hw : 0 < width)
    {motive : (all : List Chunk) → Laid all → Ready all → Prop}
    (nil : ∀ laid ready, motive [] laid ready)
    (last : ∀ all laid ready, all ≠ [] → all.flatten.length ≤ width → motive all laid ready)
    (full : ∀ line chunk rest (h : Full width line chunk rest),
      motive (dropSpace (chunk :: rest)) h.laid_below h.laid.of_append.ready_dropSpace →
      motive (line ++ chunk :: rest) h.laid h.ready)
    (cut : ∀ line chunk rest (h : Cut width line chunk rest),
      motive (chunk.drop (cutBehind width line chunk) :: rest) (h.laid_below hw)
        (h.ready_below hw) →
      motive (line ++ chunk :: rest) h.laid h.ready)
    (all : List Chunk) (laid : Laid all) (ready : Ready all) : motive all laid ready := by
  induction size : chunksSize all using Nat.strong_induction_on generalizing all with
  | _ n ih =>
    by_cases ne : all = []
    · subst ne
      exact nil laid ready
    obtain fits | ⟨line, chunk, rest, rfl, h | h⟩ := fill_cases width laid ready
    · exact last all laid ready ne fits
    · exact full line chunk rest h (ih _ (size ▸ h.size_lt) _ _ _ rfl)
    · exact cut line chunk rest h (ih _ (size ▸ h.size_lt hw) _ _ _ rfl)

end ResourceStubs.Doc
