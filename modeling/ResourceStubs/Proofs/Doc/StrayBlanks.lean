import ResourceStubs.Proofs.Doc.Setting
import ResourceStubs.Proofs.Doc.Summary

/-! White space at the ends of lines. No line starts with white space. One ends with it just where
the space behind a word fills the line and a chunk wider than a line comes next: none of that chunk
fits, and the empty piece of it is dropped in place of the space. -/

namespace ResourceStubs.Doc

open Text

variable {width : Nat} {all line rest : List Chunk} {chunk : Chunk}

/-- The line starts with white space. -/
def StartsBlank (line : List Char) : Prop := ∃ c, line.head? = some c ∧ isBlank c = true

/-- The line ends with white space. -/
def EndsBlank (line : List Char) : Prop := ∃ c, line.getLast? = some c ∧ isBlank c = true

/-! ### Chunks before a space -/

theorem not_endsBlank_append_piece (piece : IsPiece chunk) (line : List Chunk) :
    ¬EndsBlank (line ++ [chunk]).flatten := by
  rintro ⟨c, hc, blank⟩
  have last := List.getLast?_eq_some_getLast piece.1
  rw [List.flatten_append, List.flatten_singleton, List.getLast?_append, last] at hc
  obtain rfl := Option.some.inj hc
  rw [piece.2 _ (List.getLast_mem piece.1)] at blank
  cases blank

theorem endsBlank_append_space (line : List Chunk) : EndsBlank (line ++ [spaceChunk]).flatten :=
  ⟨' ', by simp [spaceChunk], isBlank_space⟩

theorem Laid.not_endsBlank (laid : Laid all) : ¬EndsBlank all.flatten := by
  obtain rfl | ⟨before, last, rfl⟩ := List.eq_nil_or_concat' all
  · simp [EndsBlank]
  · exact not_endsBlank_append_piece laid.last_isPiece before

theorem Laid.not_two_spaces : ¬Laid (spaceChunk :: spaceChunk :: rest) := by
  intro laid
  cases laid with
  | piece head _ => exact head.ne_spaceChunk rfl
  | space next _ => exact next.ne_spaceChunk rfl

theorem Laid.cons_of_append (laid : Laid (chunk :: (all ++ rest))) (h : Laid all)
    (next : all ≠ [] ∨ chunk ≠ spaceChunk) : Laid (chunk :: all) := by
  by_cases space : chunk = spaceChunk
  · obtain ⟨first, more, rfl⟩ := List.exists_cons_of_ne_nil (next.resolve_right (not_not.mpr space))
    cases laid with
    | piece head _ => exact absurd space head.ne_spaceChunk
    | space next _ => exact .space next h.tail_of_cons
  · exact .piece (laid.isPiece_of_ne space) h

/-- The chunks in front of others are laid, but for a space at their end. -/
theorem Laid.front_cases (laid : Laid (line ++ rest)) :
    Laid line ∨ ∃ before, line = before ++ [spaceChunk] ∧ Laid before := by
  induction line with
  | nil => exact .inl .nil
  | cons first more ih =>
    obtain h | ⟨before, rfl, h⟩ := ih laid.tail_of_cons
    · by_cases alone : more = [] ∧ first = spaceChunk
      · exact .inr ⟨[], by simp [alone], .nil⟩
      · exact .inl (laid.cons_of_append h (not_and_or.mp alone))
    · rw [List.cons_append, List.append_assoc] at laid
      refine .inr ⟨first :: before, rfl, laid.cons_of_append h (not_and_or.mp ?_)⟩
      rintro ⟨rfl, rfl⟩
      exact not_two_spaces laid

theorem Laid.before_space (laid : Laid (line ++ spaceChunk :: rest)) : Laid line := by
  obtain h | ⟨before, rfl, h⟩ := laid.front_cases
  · exact h
  · rw [List.append_assoc] at laid
    exact absurd laid.of_append not_two_spaces

/-! ### The end of one line -/

theorem Full.not_endsBlank (h : Full width line chunk rest) :
    ¬EndsBlank (dropBlankEnd line).flatten := by
  obtain laid | ⟨before, rfl, laid⟩ := h.laid.front_cases
  · rw [laid.dropBlankEnd_eq]
    exact laid.not_endsBlank
  · rw [dropBlankEnd_append_space]
    exact laid.not_endsBlank

/-- Nothing of a chunk is cut off just if the line is full. -/
theorem Cut.cut_eq_zero_iff (h : Cut width line chunk rest) :
    cutBehind width line chunk = 0 ↔ line.flatten.length = width := by
  have fits := h.fits
  constructor
  · intro none
    by_contra short
    have room : 0 < width - line.flatten.length := by omega
    exact absurd none (cutPoint_pos room chunk).ne'
  · intro full
    have := h.length_add_cut_le
    omega

/-- The line before a cut chunk ends with white space just if it is full and a space is its end. -/
theorem Cut.endsBlank_iff (hw : 0 < width) (h : Cut width line chunk rest) :
    EndsBlank (dropBlankEnd (line ++ [chunk.take (cutBehind width line chunk)])).flatten ↔
      ∃ before, line = before ++ [spaceChunk] ∧ line.flatten.length = width := by
  by_cases none : cutBehind width line chunk = 0
  · have full := h.cut_eq_zero_iff.mp none
    rw [none, List.take_zero, dropBlankEnd_append_nil]
    constructor
    · intro ends
      obtain laid | ⟨before, rfl, laid⟩ := h.laid.front_cases
      · exact absurd ends laid.not_endsBlank
      · exact ⟨before, rfl, full⟩
    · rintro ⟨before, rfl, -⟩
      exact endsBlank_append_space before
  · have piece : IsPiece (chunk.take (cutBehind width line chunk)) :=
      ⟨by simpa [none] using (h.isPiece hw).1,
        fun c hc => (h.isPiece hw).2 c (List.mem_of_mem_take hc)⟩
    constructor
    · rw [dropBlankEnd_append_piece piece]
      exact fun ends => absurd ends (not_endsBlank_append_piece piece line)
    · rintro ⟨-, -, full⟩
      exact absurd (h.cut_eq_zero_iff.mpr full) none

/-! ### Where a space fills the line -/

/-- The last line of the chunks has one column left. -/
def LeavesOneColumn (width : Nat) (all : List Chunk) : Prop :=
  ∃ line, (wrapFrom width false all).getLast? = some line ∧ line.length + 1 = width

/-- A space among the chunks fills the last line of those before it, and the chunk behind it is
wider than a line. -/
def FillsBeforeWideChunk (width : Nat) (all : List Chunk) : Prop :=
  ∃ before chunk after, all = before ++ spaceChunk :: chunk :: after ∧ width < chunk.length ∧
    LeavesOneColumn width before

theorem LeavesOneColumn.ne_nil (h : LeavesOneColumn width all) : all ≠ [] := by
  rintro rfl
  obtain ⟨line, hl, -⟩ := h
  simp [wrapFrom_nil] at hl

theorem leavesOneColumn_iff_of_fits (hw : 0 < width) (laid : Laid all) (ready : Ready all)
    (ne : all ≠ []) (fits : all.flatten.length ≤ width) :
    LeavesOneColumn width all ↔ all.flatten.length + 1 = width := by
  rw [LeavesOneColumn, wrapFrom_of_fits hw laid ready ne fits]
  simp

theorem getLast?_cons_wrapFrom (hw : 0 < width) (laid : Laid all) (ready : Ready all)
    (ne : all ≠ []) (first : List Char) :
    (first :: wrapFrom width false all).getLast? = (wrapFrom width false all).getLast? := by
  rw [wrapFrom_of_ne_nil false hw laid ne ready, List.getLast?_cons_cons]

theorem Ready.of_append (ready : Ready (all ++ rest)) : Ready all := by
  intro chunk hc
  exact ready chunk (by rw [List.head?_append, hc]; rfl)

theorem Full.leavesOneColumn_iff (hw : 0 < width) (h : Full width line chunk rest) :
    LeavesOneColumn width (line ++ chunk :: rest) ↔
      LeavesOneColumn width (dropSpace (chunk :: rest)) := by
  have below := h.laid.of_append
  rw [LeavesOneColumn, h.wrapFrom_eq hw,
    getLast?_cons_wrapFrom hw h.laid_below below.ready_dropSpace
    (below.lineStart (List.cons_ne_nil _ _) true).2.1, LeavesOneColumn]

theorem Cut.leavesOneColumn_iff (hw : 0 < width) (h : Cut width line chunk rest) :
    LeavesOneColumn width (line ++ chunk :: rest) ↔
      LeavesOneColumn width (chunk.drop (cutBehind width line chunk) :: rest) := by
  rw [LeavesOneColumn, h.wrapFrom_eq hw, getLast?_cons_wrapFrom hw (h.laid_below hw)
    (h.ready_below hw) (List.cons_ne_nil _ _), LeavesOneColumn]

/-- A line is full before a space as it is before all that follows the space. -/
theorem Full.before_space (h : Full width line chunk (rest ++ spaceChunk :: all)) :
    Full width line chunk rest :=
  ⟨.before_space (by simpa using h.laid), .of_append (by simpa using h.ready), h.fits, h.exceeds,
    h.narrow⟩

theorem Cut.before_space (h : Cut width line chunk (rest ++ spaceChunk :: all)) :
    Cut width line chunk rest :=
  ⟨.before_space (by simpa using h.laid), .of_append (by simpa using h.ready), h.fits, h.wide⟩

/-- A space at the end of the line takes its last column just if there was one left. -/
theorem Cut.leavesOneColumn_of_space (hw : 0 < width)
    (h : Cut width (line ++ [spaceChunk]) chunk rest) :
    LeavesOneColumn width line ↔ (line ++ [spaceChunk]).flatten.length = width := by
  have fits := h.fits
  rw [List.flatten_append, List.length_append] at fits ⊢
  have ne : line ≠ [] := by
    rintro rfl
    exact (h.ready spaceChunk rfl).ne_spaceChunk rfl
  rw [leavesOneColumn_iff_of_fits hw (.before_space (by simpa using h.laid))
    h.ready.of_append.of_append ne (by omega)]
  rfl

theorem dropSpace_eq_append {before others : List Chunk}
    (h : dropSpace (chunk :: rest) = before ++ others) (ne : before ≠ []) :
    ∃ more, rest = more ++ others ∧ dropSpace (chunk :: more) = before := by
  by_cases space : chunk = spaceChunk
  · subst space
    exact ⟨before, by simpa using h, dropSpace_space before⟩
  · obtain ⟨first, more, rfl⟩ := List.exists_cons_of_ne_nil ne
    rw [dropSpace, if_neg space] at h
    obtain ⟨rfl, rfl⟩ := List.cons_eq_cons.mp h
    exact ⟨more, rfl, if_neg space⟩

/-- The space and the wide chunk behind it are not both on the first line. -/
theorem space_wide_cases {next : Chunk} {before after : List Chunk}
    (h : line ++ next :: rest = before ++ spaceChunk :: chunk :: after)
    (fits : line.flatten.length ≤ width) (wide : width < chunk.length) :
    (line = before ++ [spaceChunk] ∧ next = chunk) ∨ (line = before ∧ next = spaceChunk) ∨
      ∃ more, before = line ++ next :: more ∧ rest = more ++ spaceChunk :: chunk :: after := by
  have h' : line ++ next :: rest = (before ++ [spaceChunk]) ++ chunk :: after := by simpa using h
  obtain ⟨more, rfl⟩ | ⟨between, eq, eq'⟩ := append_eq_append_cons_cases h'
  · simp at fits
    omega
  · obtain rfl | ⟨ahead, last, rfl⟩ := List.eq_nil_or_concat' between
    · exact .inl ⟨by simpa using eq.symm, (List.cons_eq_cons.mp eq').1⟩
    · rw [← List.append_assoc] at eq
      obtain ⟨rfl, eqLast⟩ := List.append_inj' eq rfl
      obtain rfl : spaceChunk = last := by simpa using eqLast
      cases ahead with
      | nil => exact .inr (.inl ⟨by simp, (List.cons_eq_cons.mp eq').1⟩)
      | cons first more =>
        obtain ⟨rfl, rfl⟩ := List.cons_eq_cons.mp eq'
        exact .inr (.inr ⟨more, rfl, by simp⟩)

/-- A line ends with white space just where a space fills it before a wide chunk. -/
theorem exists_endsBlank_iff_chunks (hw : 0 < width) (laid : Laid all) (ready : Ready all) :
    (∃ line ∈ wrapFrom width false all, EndsBlank line) ↔ FillsBeforeWideChunk width all := by
  induction all, laid, ready using Laid.lines_induction hw with
  | nil => simp [wrapFrom_nil, FillsBeforeWideChunk]
  | last all laid ready ne fits =>
    rw [wrapFrom_of_fits hw laid ready ne fits]
    refine iff_of_false (by simpa using laid.not_endsBlank) ?_
    rintro ⟨before, chunk, after, rfl, wide, -⟩
    simp at fits
    omega
  | full line next rest h ih =>
    rw [h.wrapFrom_eq hw, List.exists_mem_cons_iff, or_iff_right h.not_endsBlank, ih]
    constructor
    · rintro ⟨before, chunk, after, eq, wide, one⟩
      obtain ⟨more, rfl, rfl⟩ := dropSpace_eq_append eq one.ne_nil
      exact ⟨line ++ next :: more, chunk, after, by simp, wide,
        (h.before_space.leavesOneColumn_iff hw).mpr one⟩
    · rintro ⟨before, chunk, after, eq, wide, one⟩
      obtain ⟨-, rfl⟩ | ⟨rfl, rfl⟩ | ⟨more, rfl, rfl⟩ := space_wide_cases eq h.fits wide
      · exact absurd wide (Nat.not_lt.mpr h.narrow)
      · -- The space does not fit behind the line, which is then one column longer.
        have := (leavesOneColumn_iff_of_fits hw h.laid.before_space h.ready.of_append one.ne_nil
          h.fits).mp one
        have := h.exceeds
        rw [spaceChunk, List.length_singleton] at this
        omega
      · exact ⟨_, chunk, after, dropSpace_cons_append .., wide,
          (h.before_space.leavesOneColumn_iff hw).mp one⟩
  | cut line chunk rest h ih =>
    rw [h.wrapFrom_eq hw, List.exists_mem_cons_iff, h.endsBlank_iff hw, ih]
    constructor
    · rintro (⟨before, rfl, full⟩ | ⟨before, wide, after, eq, hwide, one⟩)
      · exact ⟨before, chunk, rest, by simp, h.wide, (h.leavesOneColumn_of_space hw).mpr full⟩
      · obtain ⟨first, more, rfl⟩ := List.exists_cons_of_ne_nil one.ne_nil
        obtain ⟨rfl, rfl⟩ := List.cons_eq_cons.mp eq
        exact ⟨line ++ chunk :: more, wide, after, by simp, hwide,
          (h.before_space.leavesOneColumn_iff hw).mpr one⟩
    · rintro ⟨before, wide, after, eq, hwide, one⟩
      obtain ⟨rfl, rfl⟩ | ⟨-, rfl⟩ | ⟨more, rfl, rfl⟩ := space_wide_cases eq h.fits hwide
      · exact .inl ⟨before, rfl, (h.leavesOneColumn_of_space hw).mp one⟩
      · exact absurd rfl (h.isPiece hw).ne_spaceChunk
      · exact .inr ⟨_, wide, after, rfl, hwide, (h.before_space.leavesOneColumn_iff hw).mp one⟩

/-! ### The lines of a text and of a summary -/

/-- White space fills the last line of the text before it, and the text behind it starts with a
chunk wider than a line. -/
def FillsBeforeWide (width : Nat) (cs : List Char) : Prop :=
  ∃ left blank right line chunk, cs = left ++ blank :: right ∧ isBlank blank = true ∧
    (wrap width left).getLast? = some line ∧ line.length + 1 = width ∧
    (chunks right).head? = some chunk ∧ width < chunk.length

theorem fillsBeforeWideChunk_chunks_iff {cs : List Char} :
    FillsBeforeWideChunk width (chunks cs) ↔ FillsBeforeWide width cs := by
  constructor
  · rintro ⟨before, chunk, after, eq, wide, line, last, one⟩
    obtain ⟨left, blank, right, rfl, hblank, rfl, eqRight⟩ := exists_of_chunks_eq eq
    exact ⟨left, blank, right, line, chunk, rfl, hblank, last, one, by rw [eqRight]; rfl, wide⟩
  · rintro ⟨left, blank, right, line, chunk, rfl, hblank, last, one, head, wide⟩
    have some_left : words left ≠ [] := fun none => by
      simp [wrap, chunks, none, wrapFrom_nil] at last
    have some_right : words right ≠ [] := fun none => by simp [chunks, none] at head
    obtain ⟨after, eq⟩ := List.head?_eq_some_iff.mp head
    exact ⟨chunks left, chunk, after, by rw [chunks_append_blank hblank some_left some_right, eq],
      wide, line, last, one⟩

theorem not_startsBlank_of_mem_wrap (hw : 0 < width) {cs line : List Char}
    (hl : line ∈ wrap width cs) : ¬StartsBlank line := by
  rintro ⟨c, hc, blank⟩
  obtain ⟨d, hd, solid⟩ := (typeset_wrap hw cs).solid_start hl
  obtain rfl := Option.some.inj (hd.symm.trans hc)
  rw [solid] at blank
  cases blank

theorem exists_endsBlank_wrap_iff (hw : 0 < width) (cs : List Char) :
    (∃ line ∈ wrap width cs, EndsBlank line) ↔ FillsBeforeWide width cs :=
  (exists_endsBlank_iff_chunks hw (laid_chunks cs) fun _ => isPiece_of_head?_chunks).trans
    fillsBeforeWideChunk_chunks_iff

theorem StartsBlank.ne_nil {line : List Char} : StartsBlank line → line ≠ [] := by
  rintro ⟨c, hc, -⟩ rfl
  cases hc

theorem EndsBlank.ne_nil {line : List Char} : EndsBlank line → line ≠ [] := by
  rintro ⟨c, hc, -⟩ rfl
  cases hc

/-- The lines of a summary that have a character are those that its sentence is set in. -/
theorem mem_splitOn_summary_iff {limit : Nat} {documentation : String} {line : List Char}
    (ne : line ≠ []) :
    line ∈ (summary limit documentation).toList.splitOn '\n' ↔
      line ∈ wrap summaryWidth (summarySentence limit documentation.toList) := by
  rw [toList_summary]
  by_cases none : wrap 80 (summarySentence limit documentation.toList) = []
  · rw [none, summaryWidth, none]
    simpa using ne
  · rw [List.splitOn_intercalate '\n' (fun l hl => (summary_line hl).2.2.1) none]
    rfl

/-- No line of a text or of a summary starts with white space. One ends with it just if white space
fills a line before a chunk that is wider than a line. -/
theorem exists_endsBlank_iff (hw : 0 < width) (cs : List Char) (limit : Nat)
    (documentation : String) :
    ((∀ line ∈ wrap width cs, ¬StartsBlank line) ∧
      ((∃ line ∈ wrap width cs, EndsBlank line) ↔ FillsBeforeWide width cs)) ∧
    (∀ line ∈ (summary limit documentation).toList.splitOn '\n', ¬StartsBlank line) ∧
      ((∃ line ∈ (summary limit documentation).toList.splitOn '\n', EndsBlank line) ↔
        FillsBeforeWide summaryWidth (summarySentence limit documentation.toList)) := by
  have columns : 0 < summaryWidth := by decide
  refine ⟨⟨fun line hl => not_startsBlank_of_mem_wrap hw hl, exists_endsBlank_wrap_iff hw cs⟩,
    fun line hl starts => ?_, ?_⟩
  · exact not_startsBlank_of_mem_wrap columns ((mem_splitOn_summary_iff starts.ne_nil).mp hl) starts
  · rw [← exists_endsBlank_wrap_iff columns]
    exact exists_congr fun line => and_congr_left fun ends => mem_splitOn_summary_iff ends.ne_nil

theorem exists_endsBlank_iff_narrow :
    wrap 3 "ab cdef".toList = ["ab ".toList, "cde".toList, "f".toList] ∧
      FillsBeforeWide 3 "ab cdef".toList ∧
      wrap 3 "ab cde".toList = ["ab".toList, "cde".toList] ∧
        ¬FillsBeforeWide 3 "ab cde".toList := by
  have wide :
      wrap 3 "ab cdef".toList = ["ab ".toList, "cde".toList, "f".toList] := by decide +kernel
  have narrow : wrap 3 "ab cde".toList = ["ab".toList, "cde".toList] := by decide +kernel
  have stray (text : String) := (exists_endsBlank_iff (by decide : 0 < 3) text.toList 300 "").1.2
  refine ⟨wide, (stray "ab cdef").mp ?_, narrow, fun fills => ?_⟩
  · rw [wide]
    exact ⟨"ab ".toList, by simp, ' ', by decide, by decide⟩
  · obtain ⟨line, hl, c, hc, blank⟩ := (stray "ab cde").mpr fills
    rw [narrow] at hl
    obtain rfl | rfl : line = "ab".toList ∨ line = "cde".toList := by simpa using hl
    · obtain rfl : 'b' = c := Option.some.inj hc
      exact absurd blank (by decide)
    · obtain rfl : 'e' = c := Option.some.inj hc
      exact absurd blank (by decide)

/-- A word of 79 characters fills a line of a summary together with the space behind it, and of a
word of 81 characters behind them nothing is on that line but the empty piece. -/
theorem not_forall_not_endsBlank :
    (¬∀ width cs, 0 < width → ∀ line ∈ wrap width cs, ¬StartsBlank line ∧ ¬EndsBlank line) ∧
      ¬∀ limit documentation, ∀ line ∈ (summary limit documentation).toList.splitOn '\n',
        ¬StartsBlank line ∧ ¬EndsBlank line := by
  have narrow :
      wrap 3 "ab cdef".toList = ["ab ".toList, "cde".toList, "f".toList] := by decide +kernel
  have ends : EndsBlank (List.replicate 79 'x' ++ [' ']) :=
    ⟨' ', by rw [List.getLast?_concat], isBlank_space⟩
  have lines : summaryLines defaultLimit (List.replicate 79 'x' ++ ' ' :: List.replicate 81 'y') =
      [List.replicate 79 'x' ++ [' '], List.replicate 80 'y', "y.".toList] := by decide +kernel
  refine ⟨fun claim => ?_, fun claim => ?_⟩
  · refine (claim 3 "ab cdef".toList (by decide) "ab ".toList ?_).2 ?_
    · rw [narrow]
      exact List.mem_cons_self
    · exact ⟨' ', by decide, isBlank_space⟩
  · refine (claim defaultLimit
      (String.ofList (List.replicate 79 'x' ++ ' ' :: List.replicate 81 'y')) _ ?_).2 ends
    rw [mem_splitOn_summary_iff ends.ne_nil, String.toList_ofList, ← summaryLines, lines]
    exact List.mem_cons_self

end ResourceStubs.Doc
