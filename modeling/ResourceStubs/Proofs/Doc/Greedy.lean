import ResourceStubs.Proofs.Doc.Breaks
import ResourceStubs.Proofs.Doc.StrayBlanks

/-! Lines that are filled. Where no chunk is wider than a line, a break stands in front of a chunk
that no longer fits: behind the line above it, with the space between words if the break has taken
its place, the chunk would go beyond the width. Lines are broken at chunks and the space of a break
is told by the words, so both are related to the characters above the break that are not white
space. -/

namespace ResourceStubs.Doc

open Text

variable {width : Nat} {all line rest : List Chunk} {chunk : Chunk} {above below : List (List Char)}
  {upper lower : List Char}

/-! ### The chunk behind a break -/

/-- A piece at the start of a line stays there. -/
theorem exists_dropBlankEnd_cons (piece : IsPiece chunk) (more : List Chunk) :
    ∃ kept, dropBlankEnd (chunk :: more) = chunk :: kept := by
  obtain rfl | ⟨before, last, rfl⟩ := List.eq_nil_or_concat' more
  · exact ⟨[], dropBlankEnd_append_piece piece []⟩
  · rw [dropBlankEnd, ← List.cons_append, List.getLast?_concat]
    dsimp only
    split
    · exact ⟨before, List.dropLast_concat⟩
    · exact ⟨before ++ [last], rfl⟩

/-- The first line starts with the first chunk, unless that is wider than a line. -/
theorem prefix_of_wrapFrom (hw : 0 < width) (laid : Laid (chunk :: rest)) (piece : IsPiece chunk)
    (narrow : chunk.length ≤ width) (set : wrapFrom width false (chunk :: rest) = lower :: below) :
    chunk <+: lower := by
  have ready : Ready (chunk :: rest) := by simpa [Ready] using piece
  have starts (more : List Chunk) : chunk <+: (dropBlankEnd (chunk :: more)).flatten := by
    obtain ⟨kept, eq⟩ := exists_dropBlankEnd_cons piece more
    exact ⟨kept.flatten, by rw [eq, List.flatten_cons]⟩
  obtain fits | ⟨line, next, others, eq, h | h⟩ := fill_cases width laid ready
  · rw [wrapFrom_of_fits hw laid ready (List.cons_ne_nil _ _) fits] at set
    obtain ⟨rfl, -⟩ := List.cons_eq_cons.mp set
    exact ⟨rest.flatten, List.flatten_cons.symm⟩
  · rw [eq, h.wrapFrom_eq hw] at set
    obtain ⟨first, more, rfl⟩ := List.exists_cons_of_ne_nil h.ne_nil
    obtain ⟨rfl, -⟩ := List.cons_eq_cons.mp eq
    obtain ⟨rfl, -⟩ := List.cons_eq_cons.mp set
    exact starts more
  · rw [eq, h.wrapFrom_eq hw] at set
    obtain ⟨rfl, -⟩ := List.cons_eq_cons.mp set
    cases line with
    | nil =>
      obtain ⟨rfl, -⟩ := List.cons_eq_cons.mp eq
      exact absurd h.wide (Nat.not_lt.mpr narrow)
    | cons first more =>
      obtain ⟨rfl, -⟩ := List.cons_eq_cons.mp eq
      exact starts _

/-- The break between the lines `upper` and `lower`: it falls behind a piece and in front of a chunk
that starts the lower line, at a space or where the two are next to each other, and the chunk does
not fit on the upper line. -/
structure Break (width : Nat) (all : List Chunk) (above : List (List Char))
    (upper lower : List Char)
    (before gap : List Chunk) (chunk : Chunk) (after : List Chunk) : Prop where
  place : all = before ++ (gap ++ chunk :: after)
  behind : ∃ last, before.getLast? = some last ∧ IsPiece last
  piece : IsPiece chunk
  at_space : gap = [] ∨ gap = [spaceChunk]
  above_eq : solid (above ++ [upper]).flatten = solid before.flatten
  starts : chunk <+: lower
  exceeds : width < upper.length + gap.flatten.length + chunk.length

theorem Break.before_ne_nil {before gap after : List Chunk}
    (h : Break width all above upper lower before gap chunk after) : before ≠ [] := by
  obtain ⟨last, hlast, -⟩ := h.behind
  rintro rfl
  cases hlast

theorem Laid.behind (laid : Laid line) (ne : line ≠ []) :
    ∃ last, line.getLast? = some last ∧ IsPiece last := by
  obtain rfl | ⟨front, last, rfl⟩ := List.eq_nil_or_concat' line
  · exact absurd rfl ne
  · exact ⟨last, List.getLast?_concat, laid.last_isPiece⟩

/-- The break below a full line. -/
theorem Full.exists_break (hw : 0 < width) (h : Full width line chunk rest)
    (narrow : ∀ other ∈ rest, other.length ≤ width)
    (set : wrapFrom width false (dropSpace (chunk :: rest)) = lower :: below) :
    ∃ before gap next after,
      Break width (line ++ chunk :: rest) [] (dropBlankEnd line).flatten lower
      before gap next after := by
  have exceeds := h.exceeds
  have above_eq : solid ([] ++ [(dropBlankEnd line).flatten]).flatten = solid line.flatten := by
    rw [List.nil_append, List.flatten_singleton, solid_dropBlankEnd]
  by_cases space : chunk = spaceChunk
  · -- The space does not fit behind the line, and the piece behind it starts the lower line.
    subst space
    have laid := h.laid.before_space
    rw [dropSpace_space] at set
    rw [spaceChunk, List.length_singleton] at exceeds
    cases h.laid.of_append with
    | piece head _ => exact absurd rfl head.ne_spaceChunk
    | @space next after piece tail =>
      refine ⟨line, [spaceChunk], next, after, rfl, laid.behind h.ne_nil, piece, .inr rfl, above_eq,
        prefix_of_wrapFrom hw (.piece piece tail) piece (narrow next (by simp)) set, ?_⟩
      rw [laid.dropBlankEnd_eq, List.flatten_singleton]
      exact Nat.lt_add_right _ exceeds
  · have piece := h.laid.of_append.isPiece_of_ne space
    rw [dropSpace_of_isPiece piece] at set
    have starts := prefix_of_wrapFrom hw h.laid.of_append piece h.narrow set
    obtain laid | ⟨before, rfl, laid⟩ := h.laid.front_cases
    · refine ⟨line, [], chunk, rest, rfl, laid.behind h.ne_nil, piece, .inl rfl, above_eq,
        starts, ?_⟩
      rwa [laid.dropBlankEnd_eq]
    · -- The space at the end of the line is dropped, but the chunk does not fit behind it.
      have ne : before ≠ [] := by
        rintro rfl
        exact (h.ready spaceChunk rfl).ne_spaceChunk rfl
      refine ⟨before, [spaceChunk], chunk, rest, by simp, laid.behind ne, piece, .inr rfl, ?_,
        starts, ?_⟩
      · rw [above_eq, List.flatten_append, solid_append, List.flatten_singleton, solid_spaceChunk,
          List.append_nil]
      · rw [dropBlankEnd_append_space]
        rwa [List.flatten_append, List.length_append] at exceeds

theorem getLast?_dropSpace (ne : dropSpace all ≠ []) : (dropSpace all).getLast? = all.getLast? := by
  cases all with
  | nil => rfl
  | cons first more =>
    rw [dropSpace] at ne ⊢
    split at ne
    next space =>
      obtain ⟨next, others, rfl⟩ := List.exists_cons_of_ne_nil ne
      rw [if_pos space, List.getLast?_cons_cons]
    next other => rw [if_neg other]

/-- A break among the chunks below a line is one among all of them. -/
theorem Break.of_below {before gap after : List Chunk} {next : Chunk}
    (h : Break width (dropSpace (chunk :: rest)) above upper lower before gap next after)
    (line : List Chunk) :
    ∃ front, Break width (line ++ chunk :: rest) ((dropBlankEnd line).flatten :: above) upper lower
      front gap next after := by
  obtain ⟨last, hlast, piece⟩ := h.behind
  have ne := h.before_ne_nil
  obtain ⟨more, rfl, rfl⟩ := dropSpace_eq_append h.place ne
  refine ⟨line ++ chunk :: more, by simp, ⟨last, ?_, piece⟩, h.piece, h.at_space, ?_, h.starts,
    h.exceeds⟩
  · rw [List.getLast?_append, ← getLast?_dropSpace ne, hlast, Option.some_or]
  · rw [List.cons_append, List.flatten_cons, solid_append, h.above_eq, solid_dropBlankEnd,
      solid_dropSpace, ← solid_append, ← List.flatten_append]

theorem mem_of_mem_dropSpace (h : chunk ∈ dropSpace all) : chunk ∈ all := by
  cases all with
  | nil => exact h
  | cons first more =>
    rw [dropSpace] at h
    split at h
    · exact List.mem_cons_of_mem _ h
    · exact h

/-- Between two lines there is a break. -/
theorem exists_break (hw : 0 < width) (laid : Laid all) (ready : Ready all)
    (narrow : ∀ chunk ∈ all, chunk.length ≤ width)
    (set : wrapFrom width false all = above ++ upper :: lower :: below) :
    ∃ before gap chunk after, Break width all above upper lower before gap chunk after := by
  induction all, laid, ready using Laid.lines_induction hw generalizing above with
  | nil => simp [wrapFrom_nil] at set
  | last all laid ready ne fits =>
    rw [wrapFrom_of_fits hw laid ready ne fits] at set
    cases above <;> simp at set
  | full line chunk rest h ih =>
    rw [h.wrapFrom_eq hw] at set
    cases above with
    | nil =>
      obtain ⟨rfl, below_set⟩ := List.cons_eq_cons.mp set
      exact h.exists_break hw (fun other ho => narrow other (by simp [ho])) below_set
    | cons first above =>
      obtain ⟨rfl, below_set⟩ := List.cons_eq_cons.mp set
      obtain ⟨before, gap, next, after, hbreak⟩ := ih (fun other ho =>
        narrow other (List.mem_append_right _ (mem_of_mem_dropSpace ho))) below_set
      obtain ⟨front, hbreak⟩ := hbreak.of_below line
      exact ⟨front, gap, next, after, hbreak⟩
  | cut line chunk rest h ih =>
    exact absurd h.wide (Nat.not_lt.mpr (narrow chunk (by simp)))

/-! ### Breaks and words -/

/-- The chunk stands behind what is in the lines `above`: it is no space, and the chunks before it
have the characters of these lines, but for white space. -/
def StartsBelow (cs : List Char) (above : List (List Char)) (chunk : Chunk) : Prop :=
  ∃ before after, chunks cs = before ++ chunk :: after ∧ chunk ≠ spaceChunk ∧
    solid above.flatten = solid before.flatten

/-- The columns of what the break behind the lines `above` has replaced: one of a space between two
words, and none within a word. -/
inductive BreakGap (cs : List Char) (above : List (List Char)) : Nat → Prop where
  | space {before after : List (List Char)} (eq : words cs = before ++ after)
      (some_before : before ≠ []) (some_after : after ≠ [])
      (reached : solid above.flatten = before.flatten) : BreakGap cs above 1
  | within {front back : List Char} (broken : BreaksWord cs above front back) : BreakGap cs above 0

/-- A break that replaces a space does not break a word. -/
theorem not_breaksWord_of_space {cs front back : List Char} {before after : List (List Char)}
    (eq : words cs = before ++ after) (reached : solid above.flatten = before.flatten) :
    ¬BreaksWord cs above front back := by
  rintro ⟨some_front, some_back, before', after', eq', reached'⟩
  rw [reached] at reached'
  obtain ⟨more, rfl, -⟩ | ⟨more, rfl, eq_after⟩ := List.append_eq_append_iff.mp (eq.symm.trans eq')
  · have longer := congrArg List.length reached'
    have := List.length_pos_of_ne_nil some_front
    simp only [List.flatten_append, List.length_append] at longer
    omega
  · cases more with
    | nil => exact some_front (by simpa using reached')
    | cons word more =>
      obtain ⟨rfl, -⟩ := List.cons_eq_cons.mp eq_after
      obtain ⟨none, -⟩ : back = [] ∧ ∀ part ∈ more, part = [] := by simpa using reached'
      exact some_back none

theorem getLast?_of_append_cons_ne {front more : List Chunk} {first last : Chunk}
    (h : (front ++ first :: more).getLast? = some last) (ne : last ≠ first) :
    more.getLast? = some last := by
  rw [List.getLast?_append, List.getLast?_cons] at h
  cases hm : more.getLast? with
  | none =>
    rw [hm] at h
    exact absurd (Option.some.inj h).symm ne
  | some other =>
    rw [hm] at h
    exact h

/-- Next to a piece a piece of the same word stands. -/
theorem exists_of_intercalate_piece {groups : List (List Chunk)} {before after : List Chunk}
    {last : Chunk} (h : [spaceChunk].intercalate groups = before ++ chunk :: after)
    (hlast : before.getLast? = some last) (solid_last : last ≠ spaceChunk)
    (solid_chunk : chunk ≠ spaceChunk) :
    ∃ front back left right, groups = front ++ (left ++ chunk :: right) :: back ∧ left ≠ [] ∧
      solid before.flatten = solid (front.flatten ++ left).flatten := by
  induction groups generalizing before with
  | nil => simp at h
  | cons group groups ih =>
    have ne : before ≠ [] := by
      rintro rfl
      cases hlast
    cases groups with
    | nil =>
      rw [List.intercalate_singleton] at h
      exact ⟨[], [], before, after, by rw [h]; rfl, ne, rfl⟩
    | cons next groups =>
      rw [List.intercalate_cons_cons, List.append_assoc] at h
      obtain ⟨more, rfl⟩ | ⟨between, rfl, eq⟩ := append_eq_append_cons_cases h
      · exact ⟨[], next :: groups, before, more, rfl, ne, rfl⟩
      · cases between with
        | nil => exact absurd (List.cons_eq_cons.mp eq).1.symm solid_chunk
        | cons first between =>
          obtain ⟨rfl, below⟩ := List.cons_eq_cons.mp eq
          have hlast' := getLast?_of_append_cons_ne hlast solid_last
          obtain ⟨front, back, left, right, eqGroups, some_left, eqSolid⟩ := ih below hlast'
          refine ⟨group :: front, back, left, right, by rw [eqGroups, List.cons_append], some_left,
            ?_⟩
          rw [List.flatten_append, List.flatten_cons, solid_append, solid_append, eqSolid,
            solid_spaceChunk, List.nil_append, ← solid_append, ← List.flatten_append,
            List.flatten_cons, List.append_assoc]

theorem flatten_splitWords (parts : List (List Char)) :
    (parts.map (splitWord [] [])).flatten.flatten = parts.flatten := by
  rw [List.flatten_flatten, List.map_map]
  congr 1
  refine (List.map_congr_left fun word _ => ?_).trans (List.map_id _)
  simp [flatten_splitWord]

theorem not_isBlank_of_mem_words {cs : List Char} {c : Char} (hc : c ∈ (words cs).flatten) :
    isBlank c = false := by
  rw [flatten_words] at hc
  simpa using (List.mem_filter.mp hc).2

theorem flatten_ne_nil_of_pieces {before : List Chunk} (pieces : ∀ part ∈ before, IsPiece part)
    (ne : before ≠ []) : before.flatten ≠ [] := by
  obtain ⟨first, more, rfl⟩ := List.exists_cons_of_ne_nil ne
  simp [(pieces first (by simp)).1]

/-- A chunk behind another piece stands within a word. -/
theorem exists_breaksWord {cs : List Char} {before after : List Chunk} {last : Chunk}
    (place : chunks cs = before ++ chunk :: after) (hlast : before.getLast? = some last)
    (solid_last : last ≠ spaceChunk) (solid_chunk : chunk ≠ spaceChunk)
    (reached : solid above.flatten = solid before.flatten) :
    ∃ front back, BreaksWord cs above front back := by
  obtain ⟨front, back, left, right, eqGroups, some_left, eqSolid⟩ :=
    exists_of_intercalate_piece place hlast solid_last solid_chunk
  obtain ⟨before', rest, eqWords, rfl, eqRest⟩ := List.map_eq_append_iff.mp eqGroups
  obtain ⟨word, after', rfl, eqWord, rfl⟩ := List.map_eq_cons_iff.mp eqRest
  have pieces : ∀ part ∈ left ++ chunk :: right, IsPiece part := fun part hp =>
    splitWord_isPiece (words_solid (eqWords ▸ by simp : word ∈ words cs)).2 (eqWord ▸ hp)
  have whole : left.flatten ++ (chunk :: right).flatten = word := by
    rw [← List.flatten_append, ← eqWord, flatten_splitWord, List.reverse_nil, List.nil_append]
  refine ⟨left.flatten, (chunk :: right).flatten, ?_, ?_, before', after',
    by rw [whole, eqWords], ?_⟩
  · exact flatten_ne_nil_of_pieces (fun part hp => pieces part (by simp [hp])) some_left
  · exact flatten_ne_nil_of_pieces (fun part hp => pieces part (List.mem_append_right _ hp))
      (List.cons_ne_nil _ _)
  · rw [reached, eqSolid, List.flatten_append, flatten_splitWords, solid_eq_self_iff]
    intro c hc
    have hword : c ∈ (words cs).flatten := by
      rw [eqWords, List.flatten_append, List.flatten_cons, ← whole, List.append_assoc,
        ← List.append_assoc]
      exact List.mem_append_left _ hc
    exact not_isBlank_of_mem_words hword

/-- A chunk behind a space is the first of a word. -/
theorem exists_words_of_space {cs : List Char} {before after : List Chunk}
    (place : chunks cs = before ++ spaceChunk :: chunk :: after) (ne : before ≠ [])
    (reached : solid above.flatten = solid before.flatten) :
    ∃ before' after', words cs = before' ++ after' ∧ before' ≠ [] ∧ after' ≠ [] ∧
      solid above.flatten = before'.flatten := by
  obtain ⟨left, blank, right, rfl, hblank, rfl, eqRight⟩ := exists_of_chunks_eq place
  refine ⟨words left, words right, words_append_blank hblank left right, fun none => ne ?_,
    fun none => ?_, by rw [reached, solid_flatten_chunks, flatten_words]⟩
  · simp [chunks, none]
  · simp [chunks, none] at eqRight

/-- What a break replaces is told by the words. -/
theorem Break.breakGap {cs : List Char} {before gap after : List Chunk}
    (h : Break width (chunks cs) above upper lower before gap chunk after) :
    BreakGap cs (above ++ [upper]) gap.flatten.length := by
  obtain ⟨last, hlast, piece_last⟩ := h.behind
  have place := h.place
  obtain rfl | rfl := h.at_space
  · obtain ⟨front, back, broken⟩ := exists_breaksWord place hlast piece_last.ne_spaceChunk
      h.piece.ne_spaceChunk h.above_eq
    exact .within broken
  · obtain ⟨before', after', eq, some_before, some_after, reached⟩ :=
      exists_words_of_space place h.before_ne_nil h.above_eq
    exact .space eq some_before some_after reached

/-- Between two places with the same characters before them no piece stands. -/
theorem Laid.eq_of_solid_eq {before between after after' : List Chunk} {other : Chunk}
    (laid : Laid (before ++ chunk :: after)) (solid_chunk : chunk ≠ spaceChunk)
    (place : chunk :: after = between ++ other :: after')
    (eq : solid before.flatten = solid (before ++ between).flatten) : chunk = other := by
  cases between with
  | nil => exact (List.cons_eq_cons.mp place).1
  | cons next between =>
    obtain ⟨rfl, -⟩ := List.cons_eq_cons.mp place
    have piece := laid.of_append.isPiece_of_ne solid_chunk
    have longer := congrArg List.length eq
    have := List.length_pos_of_ne_nil piece.1
    simp only [List.flatten_append, List.flatten_cons, solid_append, List.length_append,
      piece.solid_eq] at longer
    omega

/-- The lines above a break tell the chunk behind it. -/
theorem StartsBelow.unique {cs : List Char} {first second : Chunk} (h : StartsBelow cs above first)
    (h' : StartsBelow cs above second) : first = second := by
  obtain ⟨before, after, place, solid_first, reached⟩ := h
  obtain ⟨before', after', place', solid_second, reached'⟩ := h'
  have laid := laid_chunks cs
  obtain ⟨between, rfl, eq⟩ | ⟨between, rfl, eq⟩ :=
    List.append_eq_append_iff.mp (place.symm.trans place')
  · exact (place ▸ laid).eq_of_solid_eq solid_first eq (reached.symm.trans reached')
  · exact ((place' ▸ laid).eq_of_solid_eq solid_second eq (reached'.symm.trans reached)).symm

/-- Where no chunk is wider than a line, lines are filled: the first chunk of a line does not fit on
the line above it, behind the space that the break has replaced if it does not fall within a
word. -/
theorem wrap_filled (hw : 0 < width) {cs : List Char}
    (narrow : ∀ chunk ∈ chunks cs, chunk.length ≤ width)
    (set : wrap width cs = above ++ upper :: lower :: below) :
    (∃ chunk gap, StartsBelow cs (above ++ [upper]) chunk ∧ BreakGap cs (above ++ [upper]) gap) ∧
      ∀ chunk gap, StartsBelow cs (above ++ [upper]) chunk → BreakGap cs (above ++ [upper]) gap →
        chunk <+: lower ∧ width < upper.length + gap + chunk.length := by
  obtain ⟨before, gap, chunk, after, h⟩ :=
    exists_break hw (laid_chunks cs) (fun _ => isPiece_of_head?_chunks) narrow set
  have starts : StartsBelow cs (above ++ [upper]) chunk := by
    refine ⟨before ++ gap, after, by rw [h.place, List.append_assoc], h.piece.ne_spaceChunk, ?_⟩
    rw [h.above_eq]
    obtain rfl | rfl := h.at_space
    · rw [List.append_nil]
    · simp [solid_spaceChunk]
  refine ⟨⟨chunk, _, starts, h.breakGap⟩, fun other columns hother hcolumns => ?_⟩
  obtain rfl := starts.unique hother
  refine ⟨h.starts, ?_⟩
  have exceeds := h.exceeds
  cases hcolumns with
  | space =>
    obtain rfl | rfl := h.at_space
    · rw [List.flatten_nil, List.length_nil] at exceeds
      omega
    · exact exceeds
  | within broken =>
    obtain rfl | rfl := h.at_space
    · exact exceeds
    · -- The words tell that a break at a space is within no word.
      obtain ⟨before', after', eq, -, -, reached⟩ :=
        exists_words_of_space h.place h.before_ne_nil h.above_eq
      exact absurd broken (not_breaksWord_of_space eq reached)

/-- A word is broken at its hyphen, and the next line ends at a space. -/
theorem wrap_filled_signpost :
    let sign := "a well-known sign post".toList
    wrap 9 sign = ["a well-".toList, "known".toList, "sign post".toList] ∧
      (∀ chunk ∈ chunks sign, chunk.length ≤ 9) ∧
      StartsBelow sign ["a well-".toList] "known".toList ∧
      BreakGap sign ["a well-".toList] 0 ∧ 9 < "a well-".length + 0 + "known".length ∧
      StartsBelow sign ["a well-".toList, "known".toList] "sign".toList ∧
      BreakGap sign ["a well-".toList, "known".toList] 1 ∧
      9 < "known".length + 1 + "sign".length := by
  have set : wrap 9 "a well-known sign post".toList =
      ["a well-".toList, "known".toList, "sign post".toList] := by decide +kernel
  have cut : chunks "a well-known sign post".toList =
      ["a".toList, [' '], "well-".toList, "known".toList, [' '], "sign".toList, [' '],
        "post".toList] := by decide +kernel
  have narrow : ∀ chunk ∈ chunks "a well-known sign post".toList, chunk.length ≤ 9 := by
    rw [cut]
    decide
  have known : StartsBelow "a well-known sign post".toList ["a well-".toList] "known".toList :=
    ⟨["a".toList, [' '], "well-".toList], [[' '], "sign".toList, [' '], "post".toList], cut,
      by decide, by decide⟩
  have sign : StartsBelow "a well-known sign post".toList ["a well-".toList, "known".toList]
      "sign".toList :=
    ⟨["a".toList, [' '], "well-".toList, "known".toList, [' ']], [[' '], "post".toList], cut,
      by decide, by decide⟩
  have broken : BreaksWord "a well-known sign post".toList ["a well-".toList] "well-".toList
      "known".toList :=
    ⟨by decide, by decide, ["a".toList], ["sign".toList, "post".toList], by decide, by decide⟩
  have apart : words "a well-known sign post".toList =
      ["a".toList, "well-known".toList] ++ ["sign".toList, "post".toList] := by decide
  have space : BreakGap "a well-known sign post".toList ["a well-".toList, "known".toList] 1 :=
    .space apart (by decide) (by decide) (by decide)
  have first_set : wrap 9 "a well-known sign post".toList =
      [] ++ "a well-".toList :: "known".toList :: ["sign post".toList] := set
  have second_set : wrap 9 "a well-known sign post".toList =
      ["a well-".toList] ++ "known".toList :: "sign post".toList :: [] := set
  have first := (wrap_filled (by decide) narrow first_set).2 _ _ known (.within broken)
  have second := (wrap_filled (by decide) narrow second_set).2 _ _ sign space
  exact ⟨set, narrow, known, .within broken, first.2, sign, space, second.2⟩

end ResourceStubs.Doc
