import ResourceStubs.Proofs.Doc.Positions

/-! Where a word is broken. A piece of a word stays on one line if it fits on a line at all, so that
a word that fits is broken between its pieces only, and there a hyphen stands. -/

namespace ResourceStubs.Doc

open Text

variable {width : Nat} {all line rest above below : List (List Char)} {chunk : Chunk}

/-! ### Counting characters -/

/-- The characters of the parts that are not white space. -/
def offset (parts : List (List Char)) : Nat := (solid parts.flatten).length

@[simp] theorem offset_nil : offset [] = 0 := rfl

@[simp] theorem offset_cons (part : List Char) (parts : List (List Char)) :
    offset (part :: parts) = (solid part).length + offset parts := by
  simp [offset]

@[simp] theorem offset_append (before after : List (List Char)) :
    offset (before ++ after) = offset before + offset after := by
  simp [offset]

theorem IsPiece.solid_eq (h : IsPiece chunk) : solid chunk = chunk := solid_eq_self_iff.mpr h.2

theorem solid_spaceChunk : solid spaceChunk = [] :=
  solid_eq_nil_iff.mpr (by simp [spaceChunk, isBlank_space])

theorem solid_dropSpace (all : List Chunk) : solid (dropSpace all).flatten = solid all.flatten := by
  cases all with
  | nil => rfl
  | cons first more =>
    rw [dropSpace]
    split
    next space => simp [space, solid_spaceChunk]
    next => rfl

theorem offset_dropSpace (all : List Chunk) : offset (dropSpace all) = offset all := by
  rw [offset, solid_dropSpace, offset]

theorem dropSpace_append (piece : IsPiece chunk) (before after : List Chunk) :
    dropSpace (before ++ chunk :: after) = dropSpace before ++ chunk :: after := by
  cases before with
  | nil => exact dropSpace_of_isPiece piece after
  | cons first more => exact dropSpace_cons_append first more (chunk :: after)

theorem solid_dropBlankEnd (line : List Chunk) :
    solid (dropBlankEnd line).flatten = solid line.flatten := by
  obtain ⟨blank, hblank, eq⟩ := dropBlankEnd_append line
  rw [← eq, solid_append, solid_eq_nil_iff.mpr hblank, List.append_nil]

theorem length_solid_dropBlankEnd (line : List Chunk) :
    (solid (dropBlankEnd line).flatten).length = offset line := by
  rw [solid_dropBlankEnd, offset]

/-! ### Pieces -/

/-- A piece that fits on a line stays on one line: it is all below a break or all above it. -/
theorem piece_stays (hw : 0 < width) (laid : Laid all) (ready : Ready all)
    {before after : List Chunk} (set : wrapFrom width false all = above ++ below)
    (place : all = before ++ chunk :: after) (piece : IsPiece chunk) (fits : chunk.length ≤ width) :
    offset above ≤ offset before ∨ offset before + chunk.length ≤ offset above := by
  induction all, laid, ready using Laid.lines_induction hw generalizing above before with
  | nil => simp at place
  | last all laid ready ne short =>
    rw [wrapFrom_of_fits hw laid ready ne short] at set
    cases above with
    | nil => simp
    | cons first above =>
      obtain ⟨rfl, -⟩ := List.cons_eq_cons.mp set
      refine .inr ?_
      rw [offset_cons, ← offset, place, offset_append, offset_cons, piece.solid_eq]
      omega
  | full line next rest h ih =>
    rw [h.wrapFrom_eq hw] at set
    cases above with
    | nil => simp
    | cons first above =>
      obtain ⟨rfl, below_set⟩ := List.cons_eq_cons.mp set
      rw [offset_cons, length_solid_dropBlankEnd]
      obtain ⟨more, rfl⟩ | ⟨between, rfl, eq⟩ := append_eq_append_cons_cases place
      · rw [offset_append, offset_cons, piece.solid_eq]
        omega
      · -- The next line may drop a space in front of the piece.
        have := ih below_set (eq ▸ dropSpace_append piece between after)
        rw [offset_dropSpace] at this
        rw [offset_append]
        omega
  | cut line wide rest h ih =>
    rw [h.wrapFrom_eq hw] at set
    cases above with
    | nil => simp
    | cons first above =>
      obtain ⟨rfl, below_set⟩ := List.cons_eq_cons.mp set
      rw [offset_cons, length_solid_dropBlankEnd, offset_append]
      obtain ⟨more, rfl⟩ | ⟨between, rfl, eq⟩ := append_eq_append_cons_cases place
      · rw [offset_append, offset_cons, piece.solid_eq]
        omega
      · have := h.wide
        cases between with
        | nil =>
          obtain ⟨rfl, -⟩ := List.cons_eq_cons.mp eq
          omega
        | cons first between =>
          obtain ⟨rfl, rfl⟩ := List.cons_eq_cons.mp eq
          have := ih below_set (List.cons_append ..).symm
          have whole := congrArg (fun cs => (solid cs).length)
            (List.take_append_drop (cutBehind width line wide) wide)
          simp only [solid_append, List.length_append] at whole
          simp only [offset_cons, offset_append, offset_nil] at this ⊢
          omega

/-! ### Words -/

/-- Where two pieces of a word meet, a hyphen stands. -/
def MeetAtHyphen (front back : List Char) : Prop :=
  front.getLast? = some '-' ∨ back.head? = some '-'

theorem isChain_chunkIfAny_append {parts : List Chunk} (h : parts.IsChain MeetAtHyphen)
    (hyphen : ∀ part ∈ parts.head?, part.head? = some '-') (begun : Chunk) :
    (chunkIfAny begun ++ parts).IsChain MeetAtHyphen := by
  unfold chunkIfAny
  split
  · exact h
  · exact List.isChain_cons.mpr ⟨fun part hp => .inr (hyphen part hp), h⟩

theorem isChain_splitWord (seen begun word : List Char) :
    (splitWord seen begun word).IsChain MeetAtHyphen := by
  fun_induction splitWord seen begun word with
  | case1 seen begun => simpa using isChain_chunkIfAny_append .nil (by simp) begun.reverse
  | case2 seen begun c rest hc ih => exact ih
  | case3 seen begun c rest hc dashes after run ih =>
    obtain rfl : c = '-' := by simpa using hc
    refine isChain_chunkIfAny_append (List.isChain_cons.mpr ⟨fun next _ => .inl ?_, ih⟩)
      (by simp [dashes]) _
    have all_dashes : ∀ d ∈ dashes, d = '-' := by
      intro d hd
      obtain rfl | hd := List.mem_cons.mp hd
      · rfl
      · simpa using List.all_eq_true.mp List.all_takeWhile d hd
    have ne : dashes ≠ [] := List.cons_ne_nil _ _
    rw [List.getLast?_eq_some_getLast ne, all_dashes _ (List.getLast_mem ne)]
  | case4 seen begun c rest hc dashes after run hyphen ih =>
    obtain rfl : c = '-' := by simpa using hc
    exact List.isChain_cons.mpr ⟨fun next _ => .inl (by simp), ih⟩
  | case5 seen begun c rest hc dashes after run hyphen ih => exact ih

theorem meetAtHyphen_flatten {front back : List Chunk}
    (chain : (front ++ back).IsChain MeetAtHyphen) (some_front : front ≠ [])
    (some_back : back ≠ []) : MeetAtHyphen front.flatten back.flatten := by
  obtain ⟨first, next, rfl⟩ := List.exists_cons_of_ne_nil some_back
  obtain rfl | ⟨before, last, rfl⟩ := List.eq_nil_or_concat' front
  · exact absurd rfl some_front
  have meet : MeetAtHyphen last first := by
    rw [List.append_assoc, List.isChain_append] at chain
    exact List.rel_of_isChain_cons_cons chain.2.1
  refine meet.imp (fun h => ?_) fun h => ?_
  · rw [List.flatten_append, List.flatten_singleton, List.getLast?_append, h]
    rfl
  · rw [List.flatten_cons, List.head?_append, h]
    rfl

/-- A count of characters that falls within none of the parts falls between two of them. -/
theorem exists_append_of_not_within {parts : List (List Char)} {k : Nat}
    (le : k ≤ parts.flatten.length)
    (outside : ∀ before part after, parts = before ++ part :: after →
      k ≤ before.flatten.length ∨ before.flatten.length + part.length ≤ k) :
    ∃ before after, parts = before ++ after ∧ before.flatten.length = k := by
  induction parts generalizing k with
  | nil => exact ⟨[], [], rfl, (Nat.le_zero.mp le).symm⟩
  | cons part parts ih =>
    obtain none | whole := outside [] part parts rfl
    · exact ⟨[], part :: parts, rfl, (Nat.le_zero.mp none).symm⟩
    · rw [List.flatten_nil, List.length_nil, Nat.zero_add] at whole
      rw [List.flatten_cons, List.length_append] at le
      obtain ⟨before, after, rfl, hk⟩ := ih (show k - part.length ≤ parts.flatten.length by omega)
        fun before next after eq => by
          have := outside (part :: before) next after (by rw [eq, List.cons_append])
          rw [List.flatten_cons, List.length_append] at this
          omega
      exact ⟨part :: before, after, rfl, by rw [List.flatten_cons, List.length_append]; omega⟩

/-- The chunks of a text are those of the words before a word, of the word and of those behind
it. -/
theorem chunks_of_words {cs word : List Char} {before after : List (List Char)}
    (h : words cs = before ++ word :: after) :
    ∃ front back, chunks cs = front ++ (splitWord [] [] word ++ back) ∧
      solid front.flatten = before.flatten := by
  have solid_words : ∀ w ∈ before, solid w = w := fun w hw =>
    solid_eq_self_iff.mpr (words_solid (h ▸ List.mem_append_left _ hw : w ∈ words cs)).2
  have tail (word : List Char) (after : List (List Char)) : ∃ back,
      [spaceChunk].intercalate ((word :: after).map (splitWord [] [])) =
        splitWord [] [] word ++ back := by
    cases after with
    | nil => exact ⟨[], by simp⟩
    | cons next after => exact ⟨_, by rw [List.map_cons, List.map_cons,
        List.intercalate_cons_cons, List.append_assoc]⟩
  rw [chunks, h]
  clear h
  induction before with
  | nil =>
    obtain ⟨back, eq⟩ := tail word after
    exact ⟨[], back, eq, rfl⟩
  | cons first before ih =>
    obtain ⟨front, back, eq, eqSolid⟩ := ih fun w hw => solid_words w (by simp [hw])
    refine ⟨splitWord [] [] first ++ spaceChunk :: front, back, ?_, ?_⟩
    · have : before ++ word :: after ≠ [] := by simp
      obtain ⟨next, more, eqMore⟩ := List.exists_cons_of_ne_nil this
      rw [eqMore] at eq
      rw [List.cons_append, eqMore, List.map_cons, List.map_cons, List.intercalate_cons_cons,
        ← List.map_cons, eq]
      simp
    · rw [List.flatten_append, List.flatten_cons, solid_append, solid_append, eqSolid,
        solid_spaceChunk, flatten_splitWord, List.flatten_cons]
      simp [solid_words first]

/-- The lines `above` end within a word: `front` of it is in them and `back` is not. -/
def BreaksWord (cs : List Char) (above : List (List Char)) (front back : List Char) : Prop :=
  front ≠ [] ∧ back ≠ [] ∧ ∃ before after, words cs = before ++ (front ++ back) :: after ∧
    solid above.flatten = before.flatten ++ front

/-- A word that fits on a line is broken at a hyphen only. -/
theorem meetAtHyphen_of_breaksWord (hw : 0 < width) {cs front back : List Char}
    (set : wrap width cs = above ++ below) (broken : BreaksWord cs above front back)
    (fits : (front ++ back).length ≤ width) : MeetAtHyphen front back := by
  obtain ⟨some_front, some_back, before, after, eqWords, eqSolid⟩ := broken
  obtain ⟨left, right, eqChunks, eqLeft⟩ := chunks_of_words eqWords
  have flat : (splitWord [] [] (front ++ back)).flatten = front ++ back := flatten_splitWord ..
  have solid_word : ∀ c ∈ front ++ back, isBlank c = false :=
    (words_solid (eqWords ▸ by simp : front ++ back ∈ words cs)).2
  have chain := isChain_splitWord [] [] (front ++ back)
  have pieces : ∀ part ∈ splitWord [] [] (front ++ back), IsPiece part := fun part hp =>
    splitWord_isPiece solid_word hp
  generalize splitWord [] [] (front ++ back) = parts at *
  -- The break falls between two of the pieces that the word is cut into.
  have start : offset left = before.flatten.length := by rw [offset, eqLeft]
  have reached : offset above = before.flatten.length + front.length := by
    rw [offset, eqSolid, List.length_append]
  obtain ⟨above', below', rfl, hk⟩ := exists_append_of_not_within (k := front.length)
    (by rw [flat, List.length_append]; omega) fun ahead part behind eq => by
      subst eq
      have short : part.length ≤ width := by
        rw [← flat] at fits
        simp at fits
        omega
      have ahead_solid : solid ahead.flatten = ahead.flatten := solid_eq_self_iff.mpr fun c hc =>
        solid_word c (flat ▸ by rw [List.flatten_append]; exact List.mem_append_left _ hc)
      have place : chunks cs = left ++ ahead ++ part :: (behind ++ right) := by
        rw [eqChunks]
        simp
      have := piece_stays hw (laid_chunks cs) (fun _ => isPiece_of_head?_chunks) set place
        (pieces part (by simp)) short
      rw [offset_append, start, reached, offset, ahead_solid] at this
      omega
  rw [List.flatten_append] at flat
  obtain ⟨rfl, rfl⟩ := List.append_inj flat hk
  refine meetAtHyphen_flatten chain ?_ ?_
  · rintro rfl
    exact some_front rfl
  · rintro rfl
    exact some_back rfl

/-- On lines of at least one column a text is set without a place outside it or a difference below
zero. No line is empty or too long, nothing but white space is lost, added or moved, and a word that
fits on a line is broken at a hyphen only. -/
theorem wrap_total_bounded_lossless (hw : 0 < width) (cs : List Char) :
    (∀ rounds, cs.length < rounds → wrapIn? width rounds cs = some (wrap width cs)) ∧
      (∀ line ∈ wrap width cs, 1 ≤ line.length ∧ line.length ≤ width) ∧
      solid (wrap width cs).flatten = solid cs ∧
      ∀ above below front back, wrap width cs = above ++ below → BreaksWord cs above front back →
        (front ++ back).length ≤ width → front.getLast? = some '-' ∨ back.head? = some '-' := by
  refine ⟨fun rounds enough => wrapIn?_eq hw enough, fun line hl => ?_, solid_wrap hw cs,
    fun above below front back set broken fits => meetAtHyphen_of_breaksWord hw set broken fits⟩
  obtain ⟨c, hc, -⟩ := (typeset_wrap hw cs).solid_start hl
  exact ⟨List.length_pos_of_mem (List.mem_of_mem_head? hc), (typeset_wrap hw cs).fits hl⟩

theorem wrap_total_bounded_lossless_sign :
    let sign := "in a well-known name".toList
    wrap 10 sign = ["in a well-".toList, "known name".toList] ∧
      wrapIn? 10 21 sign = some (wrap 10 sign) ∧
      BreaksWord sign ["in a well-".toList] "well-".toList "known".toList ∧
      ("well-".toList.getLast? = some '-' ∨ "known".toList.head? = some '-') := by
  have set : wrap 10 "in a well-known name".toList =
      ["in a well-".toList] ++ ["known name".toList] := by decide +kernel
  have broken : BreaksWord "in a well-known name".toList ["in a well-".toList] "well-".toList
      "known".toList :=
    ⟨by decide, by decide, ["in".toList, "a".toList], ["name".toList], by decide, by decide⟩
  obtain ⟨total, -, -, breaks⟩ := wrap_total_bounded_lossless (by decide : 0 < 10)
    "in a well-known name".toList
  exact ⟨set, total 21 (by decide), broken, breaks _ _ _ _ set broken (by decide)⟩

end ResourceStubs.Doc
