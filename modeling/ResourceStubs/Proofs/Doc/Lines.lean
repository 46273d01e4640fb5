import ResourceStubs.Proofs.Doc.Chunks

/-! The lines that chunks are set in. One line takes chunks from the front, at least one character
and at most as many as the width has columns; it may lose the white space at its end and the space
before it, and nothing else. What holds of one line is carried to all lines of a text by induction
on them. -/

namespace ResourceStubs.Doc

open Text

variable {width : Nat} {all : List Chunk}

/-! ### Taking chunks for a line -/

theorem fill_append (width used : Nat) (all : List Chunk) :
    (fill width used all).1 ++ (fill width used all).2 = all := by
  induction all generalizing used with
  | nil => rfl
  | cons chunk rest ih =>
    simp only [fill]
    split
    · rfl
    · simp [ih]

theorem length_fill_le {used : Nat} (h : used ≤ width) (all : List Chunk) :
    used + (fill width used all).1.flatten.length ≤ width := by
  induction all generalizing used with
  | nil => simpa [fill] using h
  | cons chunk rest ih =>
    simp only [fill]
    split
    · simpa using h
    · have := ih (show used + chunk.length ≤ width by omega)
      simp only [List.flatten_cons, List.length_append]
      omega

theorem cutPoint_le (room : Nat) (chunk : Chunk) : cutPoint room chunk ≤ room := by
  unfold cutPoint
  simp only
  split
  · have := ((chunk.take room).reverse.dropWhile_sublist (· ≠ '-')).length_le
    simp only [List.length_reverse, List.length_take] at this ⊢
    omega
  · exact Nat.le_refl room

/-- A line takes chunks that fit on it, and then the next chunk is either left for the lines below
or, when it is wider than a line, cut. -/
theorem takeLine_cases (hw : 0 < width) (ne : all ≠ []) :
    (∃ line rest, all = line ++ rest ∧ line ≠ [] ∧ line.flatten.length ≤ width ∧
      takeLine width all = (line, rest)) ∨
    (∃ line chunk rest cut, all = line ++ chunk :: rest ∧ width < chunk.length ∧
      line.flatten.length + cut ≤ width ∧ (line = [] → 0 < cut) ∧
      takeLine width all = (line ++ [chunk.take cut], chunk.drop cut :: rest)) := by
  have split := fill_append width 0 all
  have fits := length_fill_le (Nat.zero_le width) all
  unfold takeLine
  split
  next line chunk rest eq =>
    simp only [eq, Nat.zero_add] at split fits
    split
    next wide =>
      refine .inr ⟨line, chunk, rest, _, split.symm, wide, ?_, ?_, rfl⟩
      · have := cutPoint_le (width - line.flatten.length) chunk
        rw [if_neg (by omega)]
        omega
      · rintro rfl
        rw [if_neg (by omega)]
        exact cutPoint_pos (by simpa using hw) chunk
    next narrow =>
      refine .inl ⟨line, chunk :: rest, split.symm, ?_, fits, rfl⟩
      rintro rfl
      exact narrow (width_lt_of_fill_nil eq)
  next line eq =>
    simp only [eq, Nat.zero_add, List.append_nil] at split fits
    exact .inl ⟨line, [], by simp [split], by simpa [split] using ne, fits, rfl⟩

/-- The chunks that a line takes and those it leaves are together those it is made from. It takes at
least one character and no more than fit. -/
theorem takeLine_spec (hw : 0 < width) (laid : Laid all) (ne : all ≠ []) :
    (takeLine width all).1.flatten ++ (takeLine width all).2.flatten = all.flatten ∧
      (takeLine width all).1.flatten ≠ [] ∧ (takeLine width all).1.flatten.length ≤ width ∧
      Laid (takeLine width all).2 := by
  have some_char {line rest : List Chunk} (laid : Laid (line ++ rest)) (ne : line ≠ []) :
      line.flatten ≠ [] := by
    obtain ⟨first, more, rfl⟩ := List.exists_cons_of_ne_nil ne
    have : first ≠ [] := laid.ne_nil_of_mem (by simp)
    simp [this]
  obtain ⟨line, rest, rfl, some_chunk, fits, eq⟩ |
    ⟨line, chunk, rest, cut, rfl, wide, fits, pos, eq⟩ := takeLine_cases hw ne
  · rw [eq]
    exact ⟨List.flatten_append.symm, some_char laid some_chunk, fits, laid.of_append⟩
  · rw [eq]
    have tail := laid.of_append
    have piece : IsPiece chunk := tail.isPiece_of_ne fun h => by
      rw [h, spaceChunk, List.length_singleton] at wide
      omega
    have cut_lt : cut < chunk.length := by omega
    have flat : (line ++ [chunk.take cut]).flatten = line.flatten ++ chunk.take cut := by simp
    refine ⟨?_, ?_, ?_, .piece ⟨?_, fun c hc => piece.2 c (List.mem_of_mem_drop hc)⟩
      tail.tail_of_cons⟩
    · rw [flat, List.flatten_cons, List.append_assoc, ← List.append_assoc (chunk.take cut),
        List.take_append_drop]
      simp
    · rw [flat]
      intro empty
      obtain ⟨noLine, noCut⟩ := List.append_eq_nil_iff.mp empty
      have : line = [] := Decidable.byContradiction fun ne => some_char laid ne noLine
      have cut_pos := pos this
      have := congrArg List.length noCut
      rw [List.length_take, List.length_nil] at this
      omega
    · rw [flat, List.length_append, List.length_take]
      omega
    · simpa using cut_lt

/-- Only white space is dropped at the end of a line. -/
theorem dropBlankEnd_append (line : List Chunk) : ∃ blank : List Char,
    (∀ c ∈ blank, isBlank c = true) ∧
      (dropBlankEnd line).flatten ++ blank = line.flatten := by
  unfold dropBlankEnd
  split
  next last h =>
    obtain ⟨before, rfl⟩ := List.getLast?_eq_some_iff.mp h
    split
    next blank => exact ⟨last, List.all_eq_true.mp blank, by simp⟩
    next => exact ⟨[], by simp, by simp⟩
  next => exact ⟨[], by simp, by simp⟩

/-! ### One line -/

/-- The first chunk is a piece of a word. -/
def Ready (all : List Chunk) : Prop := ∀ chunk, all.head? = some chunk → IsPiece chunk

theorem Ready.solid_start (ready : Ready all) (ne : all ≠ []) :
    ∃ c, all.flatten.head? = some c ∧ isBlank c = false := by
  obtain ⟨first, more, rfl⟩ := List.exists_cons_of_ne_nil ne
  obtain ⟨some_char, solid⟩ := ready first rfl
  obtain ⟨c, tail, rfl⟩ := List.exists_cons_of_ne_nil some_char
  exact ⟨c, rfl, solid c (by simp)⟩

/-- A line drops at most a space at its start. -/
theorem Laid.lineStart (laid : Laid all) (ne : all ≠ []) (started : Bool) :
    Laid (lineStart started all) ∧ lineStart started all ≠ [] ∧ ∃ blank : List Char,
      (∀ c ∈ blank, isBlank c = true) ∧ blank ++ (lineStart started all).flatten = all.flatten := by
  have same : Laid all ∧ all ≠ [] ∧ ∃ blank : List Char, (∀ c ∈ blank, isBlank c = true) ∧
      blank ++ all.flatten = all.flatten := ⟨laid, ne, [], by simp, rfl⟩
  cases started with
  | false => exact same
  | true =>
    cases laid with
    | nil => exact absurd rfl ne
    | piece head tail =>
      rw [Doc.lineStart, if_pos rfl, dropSpace_of_isPiece head]
      exact same
    | space next tail =>
      rw [Doc.lineStart, if_pos rfl, dropSpace_space]
      exact ⟨.piece next tail, List.cons_ne_nil _ _, spaceChunk,
        by simp [spaceChunk, isBlank_space], rfl⟩

/-- Below another line, what is left starts with a piece when the space before it is dropped. -/
theorem Laid.ready_dropSpace (h : Laid all) : Ready (dropSpace all) := by
  cases h with
  | nil => simp [Ready, dropSpace]
  | piece head _ => simpa [Ready, dropSpace_of_isPiece head] using head
  | space next _ => simpa [Ready] using next

/-- A line of the chunks, and the chunks that are left for the lines below it. -/
structure FirstLine (width : Nat) (all : List Chunk) (line : List Char) (others : List Chunk) :
    Prop where
  fits : line.length ≤ width
  solid_start : ∃ c, line.head? = some c ∧ isBlank c = false
  pared : Pared (line ++ others.flatten) all.flatten
  ends : (line ++ others.flatten).getLast? = all.flatten.getLast?
  laid : Laid others

/-- One line: what is dropped around it is white space. -/
theorem firstLine_lineStart {started : Bool} (hw : 0 < width) (laid : Laid all) (ne : all ≠ [])
    (ready : Ready (lineStart started all)) :
    FirstLine width all (dropBlankEnd (takeLine width (lineStart started all)).1).flatten
      (takeLine width (lineStart started all)).2 := by
  obtain ⟨laidStart, neStart, blank, hblank, eqStart⟩ := laid.lineStart ne started
  generalize lineStart started all = start at *
  obtain ⟨split, some_char, fits, laidRest⟩ := takeLine_spec hw laidStart neStart
  generalize takeLine width start = parts at *
  obtain ⟨line, others⟩ := parts
  obtain ⟨dropped, hdropped, eqLine⟩ := dropBlankEnd_append line
  dsimp only at *
  generalize (dropBlankEnd line).flatten = kept at *
  rw [← eqLine] at split some_char fits
  rw [List.length_append] at fits
  refine ⟨by omega, ?_, ?_, ?_, laidRest⟩
  · obtain ⟨c, hc, solid⟩ := ready.solid_start neStart
    rw [← split, List.head?_append_of_ne_nil _ some_char] at hc
    exact ⟨c, head?_of_append_blank hdropped hc solid, solid⟩
  · rw [← eqStart, ← split]
    have := ((Pared.refl kept).append (.nil_of_blank hdropped)).append (.refl others.flatten)
    rw [List.append_nil] at this
    exact (Pared.nil_of_blank hblank).append this
  · obtain ⟨c, hc, solid⟩ := laidStart.solid_end neStart
    have whole : all.flatten.getLast? = some c := by
      rw [← eqStart, List.getLast?_append, hc]
      rfl
    rw [whole]
    by_cases last : others = []
    · -- The last line drops nothing at its end, since a piece stands there.
      rw [last, List.flatten_nil, List.append_nil] at split ⊢
      rw [← split] at hc
      rwa [eq_nil_of_append_blank hdropped hc solid, List.append_nil] at hc
    · obtain ⟨d, hd, -⟩ := laidRest.solid_end last
      rw [← split, List.getLast?_append, hd] at hc
      rw [List.getLast?_append, hd]
      exact hc

/-! ### All lines -/

/-- The lines that chunks are set in, the first of them on top. -/
inductive Typeset (width : Nat) : List Chunk → List (List Char) → Prop where
  | nil : Typeset width [] []
  | cons {all : List Chunk} {line : List Char} {others : List Chunk} {lines : List (List Char)}
      (first : FirstLine width all line others) (below : Typeset width others lines) :
      Typeset width all (line :: lines)

theorem typeset_wrapFrom {started : Bool} (hw : 0 < width) (laid : Laid all)
    (ready : Ready (lineStart started all)) :
    Typeset width all (wrapFrom width started all) := by
  fun_induction wrapFrom width started all with
  | case1 started => exact .nil
  | case2 started first others parts line empty ih =>
    obtain ⟨c, hc, -⟩ := (firstLine_lineStart hw laid (List.cons_ne_nil _ _) ready).solid_start
    have none : dropBlankEnd (takeLine width (lineStart started (first :: others))).1 = [] :=
      List.isEmpty_iff.mp empty
    simp [none] at hc
  | case3 started first others parts line some_chunk ih =>
    have set := firstLine_lineStart hw laid (List.cons_ne_nil _ _) ready
    exact .cons set (ih set.laid set.laid.ready_dropSpace)

namespace Typeset

variable {lines : List (List Char)} {line : List Char}

theorem fits (h : Typeset width all lines) (hl : line ∈ lines) : line.length ≤ width := by
  induction h with
  | nil => simp at hl
  | cons first _ ih =>
    obtain rfl | hl := List.mem_cons.mp hl
    · exact first.fits
    · exact ih hl

theorem solid_start (h : Typeset width all lines) (hl : line ∈ lines) :
    ∃ c, line.head? = some c ∧ isBlank c = false := by
  induction h with
  | nil => simp at hl
  | cons first _ ih =>
    obtain rfl | hl := List.mem_cons.mp hl
    · exact first.solid_start
    · exact ih hl

/-- The lines have all characters of the chunks, in their order, but for white space around
lines. -/
theorem pared (h : Typeset width all lines) : Pared lines.flatten all.flatten := by
  induction h with
  | nil => exact .refl []
  | cons first _ ih => exact ((Pared.refl _).append ih).trans first.pared

/-- The last line ends as the chunks do. -/
theorem ends (h : Typeset width all lines) : lines.flatten.getLast? = all.flatten.getLast? := by
  induction h with
  | nil => rfl
  | cons first _ ih => rw [List.flatten_cons, List.getLast?_append, ih, ← List.getLast?_append,
      first.ends]

end Typeset

/-! ### The lines of a text -/

theorem typeset_wrap (hw : 0 < width) (cs : List Char) :
    Typeset width (chunks cs) (wrap width cs) :=
  typeset_wrapFrom hw (laid_chunks cs) fun _ => isPiece_of_head?_chunks

/-- Wrapping a text loses no character but white space. -/
theorem solid_wrap (hw : 0 < width) (cs : List Char) : solid (wrap width cs).flatten = solid cs :=
  (typeset_wrap hw cs).pared.solid_eq.trans (solid_flatten_chunks cs)

/-- The lines of a text together are no longer than the text. -/
theorem length_wrap_le (hw : 0 < width) (cs : List Char) :
    (wrap width cs).flatten.length ≤ cs.length := by
  have kept := (typeset_wrap hw cs).pared.sublist.length_le
  rw [flatten_chunks] at kept
  exact Nat.le_trans kept (length_intercalate_words_le cs)

/-- The only white space within the lines of a text are spaces. -/
theorem eq_space_of_mem_wrap (hw : 0 < width) {cs line : List Char} {c : Char}
    (hl : line ∈ wrap width cs) (hc : c ∈ line) : c = ' ' ∨ isBlank c = false :=
  (laid_chunks cs).char
    ((typeset_wrap hw cs).pared.sublist.subset (List.mem_flatten.mpr ⟨line, hl, hc⟩))

/-- The last line ends in the last character of the text. -/
theorem getLast?_flatten_wrap (hw : 0 < width) {cs : List Char} {d : Char}
    (h : cs.getLast? = some d) (hd : isBlank d = false) :
    (wrap width cs).flatten.getLast? = some d := by
  rw [(typeset_wrap hw cs).ends, flatten_chunks]
  exact getLast?_intercalate_words h hd

end ResourceStubs.Doc
