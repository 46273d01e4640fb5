import Mathlib.Algebra.BigOperators.Group.List.Basic
import ResourceStubs.Proofs.Doc.Setting

/-! Line breaking by positions. The loops here go over the places of a word and over the lines, a
given number of rounds at most, and have no result where a difference falls below zero, a place lies
outside a text or the rounds run out. None of these happens, and the result is the one by lists. -/

namespace ResourceStubs.Doc

open Text

variable {width : Nat} {all : List Chunk}

/-! ### Places of a text -/

/-- The difference, where it is not below zero. -/
def difference? (m n : Nat) : Option Nat := if n ≤ m then some (m - n) else none

/-- The characters from place `i` up to place `j`, where these are places of the text in this
order. -/
def slice? (cs : List Char) (i j : Nat) : Option (List Char) :=
  if i ≤ j ∧ j ≤ cs.length then some ((cs.take j).drop i) else none

/-- The characters from place `i` up to place `j` as a chunk, if there are any. -/
def sliceIfAny? (cs : List Char) (i j : Nat) : Option (List Chunk) :=
  if i < j then (slice? cs i j).map ([·]) else some []

/-- The character `n` places before place `i`. -/
def charBefore? (cs : List Char) (i n : Nat) : Option Char := (difference? i n).bind (cs[·]?)

theorem slice?_append (before middle after : List Char) :
    slice? (before ++ middle ++ after) before.length (before.length + middle.length) =
      some middle := by
  have take : (before ++ middle ++ after).take (before.length + middle.length) = before ++ middle :=
    List.take_left' (List.length_append ..)
  rw [slice?, take, List.drop_left, if_pos]
  simp

theorem slice?_prefix (front back : List Char) :
    slice? (front ++ back) 0 front.length = some front := by
  simpa using slice?_append [] front back

theorem slice?_suffix (front back : List Char) :
    slice? (front ++ back) front.length (front ++ back).length = some back := by
  simpa using slice?_append front back []

theorem sliceIfAny?_append (before middle after : List Char) :
    sliceIfAny? (before ++ middle ++ after) before.length (before.length + middle.length) =
      some (chunkIfAny middle) := by
  unfold sliceIfAny? chunkIfAny
  rw [slice?_append]
  cases middle <;> simp

theorem charBefore?_append (before after : List Char) (n : Nat) :
    charBefore? (before ++ after) before.length (n + 1) = before.reverse[n]? := by
  unfold charBefore? difference?
  split
  next inside =>
    rw [Option.bind_some, List.getElem?_append_left (by omega), List.getElem?_reverse (by omega)]
    congr 1
    omega
  next outside =>
    rw [Option.bind_none,
      List.getElem?_eq_none (by simpa using Nat.lt_succ_iff.mp (not_le.mp outside))]

/-! ### Cutting a word -/

/-- Letters stand before the hyphen at place `i`. -/
def lettersBefore (word : List Char) (i : Nat) : Bool :=
  ((charBefore? word i 2).any isLetter && (charBefore? word i 1).any isLetter) ||
    ((charBefore? word i 3).any isLetter && charBefore? word i 2 == some '-' &&
      (charBefore? word i 1).any isLetter)

/-- Letters stand behind the hyphen at place `i`. -/
def lettersAfter (word : List Char) (i : Nat) : Bool :=
  word[i + 1]?.any isLetter &&
    (word[i + 2]?.any isLetter || (word[i + 2]? == some '-' && word[i + 3]?.any isLetter))

/-- The chunks of a word from place `start`, the search for the next break being at place `i`. -/
def splitWordAt? (word : List Char) : Nat → Nat → Nat → Option (List Chunk)
  | 0, _, _ => none
  | rounds + 1, start, i =>
    match word[i]? with
    | none => sliceIfAny? word start word.length
    | some c =>
      if c ≠ '-' then splitWordAt? word rounds start (i + 1)
      else do
        let left ← slice? word i word.length
        let runEnd := i + left.findIdx (· ≠ '-')
        let dashes ← difference? runEnd i
        if 2 ≤ dashes && (charBefore? word i 1).any isWordEnd && word[runEnd]?.any isWordChar then
          let begun ← sliceIfAny? word start i
          let run ← slice? word i runEnd
          let others ← splitWordAt? word rounds runEnd runEnd
          return begun ++ run :: others
        else if start < i && lettersBefore word i && lettersAfter word i then
          let chunk ← slice? word start (i + 1)
          let others ← splitWordAt? word rounds (i + 1) (i + 1)
          return chunk :: others
        else splitWordAt? word rounds start (i + 1)

theorem lettersNext_eq (cs : List Char) :
    lettersNext cs = (cs[0]?.any isLetter &&
      (cs[1]?.any isLetter || (cs[1]? == some '-' && cs[2]?.any isLetter))) := by
  match cs with
  | [] => rfl
  | [a] => simp [lettersNext]
  | a :: b :: rest => cases rest <;> simp [lettersNext]

theorem lettersBefore_append (before after : List Char) :
    lettersBefore (before ++ after) before.length = lettersNext before.reverse := by
  rw [lettersBefore, charBefore?_append, charBefore?_append, charBefore?_append, lettersNext_eq]
  grind

theorem lettersAfter_append (before : List Char) (c : Char) (after : List Char) :
    lettersAfter (before ++ c :: after) before.length = lettersNext after := by
  simp [lettersAfter, lettersNext_eq, List.getElem?_append_right]

theorem findIdx_ne_dash (cs : List Char) :
    cs.findIdx (· ≠ '-') = (cs.takeWhile (· == '-')).length := by
  induction cs with
  | nil => rfl
  | cons c cs ih => by_cases hc : c = '-' <;> simp_all [List.findIdx_cons]

/-- What the places tell at the first of the dashes behind `before`. -/
structure AtDashes (before rest : List Char) : Prop where
  left : slice? (before ++ '-' :: rest) before.length (before ++ '-' :: rest).length =
    some ('-' :: rest)
  runEnd : before.length + ('-' :: rest).findIdx (· ≠ '-') =
    before.length + ('-' :: rest.takeWhile (· == '-')).length
  dashes : difference? (before.length + ('-' :: rest.takeWhile (· == '-')).length) before.length =
    some ('-' :: rest.takeWhile (· == '-')).length
  run : slice? (before ++ '-' :: rest) before.length
    (before.length + ('-' :: rest.takeWhile (· == '-')).length) =
      some ('-' :: rest.takeWhile (· == '-'))
  charBefore : charBefore? (before ++ '-' :: rest) before.length 1 = before.reverse.head?
  charBehind : (before ++ '-' :: rest)[before.length + ('-' :: rest.takeWhile (· == '-')).length]? =
    (rest.dropWhile (· == '-')).head?

theorem dashes_append (before rest : List Char) : AtDashes before rest := by
  have split : '-' :: rest = ('-' :: rest.takeWhile (· == '-')) ++ rest.dropWhile (· == '-') := by
    simp
  refine ⟨slice?_suffix .., ?_, ?_, ?_, ?_, ?_⟩
  · rw [findIdx_ne_dash, List.takeWhile_cons_of_pos (by simp)]
  · rw [difference?, if_pos (Nat.le_add_right ..), Nat.add_sub_cancel_left]
  · conv_lhs => rw [split, ← List.append_assoc]
    exact slice?_append ..
  · rw [charBefore?_append, List.head?_eq_getElem?]
  · conv_lhs => rw [split]
    rw [List.getElem?_append_right (Nat.le_add_right ..), Nat.add_sub_cancel_left,
      List.getElem?_append_right (Nat.le_refl _), Nat.sub_self, List.head?_eq_getElem?]

/-- One round at the end of the word. -/
theorem splitWordAt?_end (rounds : Nat) (skipped begun : List Char) :
    splitWordAt? (skipped ++ begun) (rounds + 1) skipped.length (skipped ++ begun).length =
      some (chunkIfAny begun) := by
  have chunk := sliceIfAny?_append skipped begun []
  rw [List.append_nil, ← List.length_append] at chunk
  rw [splitWordAt?, List.getElem?_eq_none (Nat.le_refl _), ← chunk]

theorem getElem?_append_cons_length (before : List Char) (c : Char) (rest : List Char) :
    (before ++ c :: rest)[before.length]? = some c := by
  rw [List.getElem?_append_right (Nat.le_refl _), Nat.sub_self, List.getElem?_cons_zero]

/-- One round at a character that is no dash. -/
theorem splitWordAt?_other {c : Char} (hc : c ≠ '-') (rounds start : Nat)
    (before rest : List Char) :
    splitWordAt? (before ++ c :: rest) (rounds + 1) start before.length =
      splitWordAt? (before ++ c :: rest) rounds start (before.length + 1) := by
  rw [splitWordAt?, getElem?_append_cons_length]
  exact if_pos hc

/-- One round at a dash. -/
theorem splitWordAt?_dash (rounds : Nat) (skipped begun rest : List Char) :
    let before := skipped ++ begun
    let word := before ++ '-' :: rest
    let dashes := '-' :: rest.takeWhile (· == '-')
    let runEnd := before.length + dashes.length
    splitWordAt? word (rounds + 1) skipped.length before.length =
      if 2 ≤ dashes.length && before.reverse.head?.any isWordEnd &&
          (rest.dropWhile (· == '-')).head?.any isWordChar then
        (splitWordAt? word rounds runEnd runEnd).map (chunkIfAny begun ++ dashes :: ·)
      else if !begun.isEmpty && lettersNext before.reverse && lettersNext rest then
        (splitWordAt? word rounds (before.length + 1) (before.length + 1)).map
          ((begun ++ ['-']) :: ·)
      else splitWordAt? word rounds skipped.length (before.length + 1) := by
  have places := dashes_append (skipped ++ begun) rest
  have begun_chunk := sliceIfAny?_append skipped begun ('-' :: rest)
  rw [← List.length_append] at begun_chunk
  have chunk : slice? (skipped ++ begun ++ '-' :: rest) skipped.length
      ((skipped ++ begun).length + 1) = some (begun ++ ['-']) := by
    have := slice?_append skipped (begun ++ ['-']) rest
    simpa [Nat.add_assoc] using this
  have begun_any : decide (skipped.length < (skipped ++ begun).length) = !begun.isEmpty := by
    cases begun <;> simp
  dsimp only
  rw [splitWordAt?, getElem?_append_cons_length]
  simp only [ne_eq, not_true_eq_false, if_false, Option.bind_eq_bind, Option.bind_some, places.left,
    places.runEnd, places.dashes, places.charBefore, places.charBehind, places.run, begun_chunk,
    chunk, begun_any, lettersBefore_append, lettersAfter_append, Option.pure_def,
    Option.map_eq_bind, Function.comp_def]

/-- Every place that is asked for is one of the word, and one round more than there are characters
left is enough to cut it. -/
theorem splitWordAt?_append {rounds : Nat} (skipped begun left : List Char)
    (enough : left.length < rounds) :
    splitWordAt? (skipped ++ begun ++ left) rounds skipped.length (skipped ++ begun).length =
      some (splitWord (skipped ++ begun).reverse begun.reverse left) := by
  induction rounds generalizing skipped begun left with
  | zero => omega
  | succ rounds ih =>
    cases left with
    | nil => rw [List.append_nil, splitWordAt?_end, splitWord, List.reverse_reverse]
    | cons c rest =>
      rw [List.length_cons] at enough
      -- The chunk begun grows by this character.
      have grow : splitWordAt? (skipped ++ begun ++ c :: rest) rounds skipped.length
          ((skipped ++ begun).length + 1) =
            some (splitWord (c :: (skipped ++ begun).reverse) (c :: begun.reverse) rest) := by
        have := ih skipped (begun ++ [c]) rest (by omega)
        simpa [Nat.add_assoc] using this
      -- A chunk has ended, and the next one begins behind it.
      have restart (ended behind : List Char) (short : behind.length < rounds) :
          splitWordAt? (ended ++ behind) rounds ended.length ended.length =
            some (splitWord ended.reverse [] behind) := by
        simpa using ih ended [] behind short
      by_cases hc : c = '-'
      · subst hc
        have behind_run := restart (skipped ++ begun ++ '-' :: rest.takeWhile (· == '-'))
          (rest.dropWhile (· == '-'))
          (by have := (List.dropWhile_suffix (l := rest) (· == '-')).length_le; omega)
        rw [List.append_assoc _ ('-' :: _), List.cons_append, List.takeWhile_append_dropWhile,
          List.length_append, List.reverse_append] at behind_run
        have behind_hyphen := restart (skipped ++ begun ++ ['-']) rest (by omega)
        rw [List.append_assoc _ ['-'], List.singleton_append, List.length_append,
          List.length_singleton, List.reverse_append, List.reverse_singleton,
          List.singleton_append] at behind_hyphen
        rw [splitWordAt?_dash, splitWord]
        simp only [ne_eq, not_true_eq_false, if_false, behind_run, behind_hyphen, grow,
          Option.map_some, apply_ite some, List.reverse_reverse, List.reverse_cons,
          List.isEmpty_reverse]
      · rw [splitWordAt?_other hc, grow, splitWord, if_pos hc]

/-! ### Setting a line -/

/-- The place of the last hyphen. -/
def lastHyphen? (cs : List Char) : Option Nat :=
  (cs.reverse.findIdx? (· == '-')).map (cs.length - 1 - ·)

/-- How much of a chunk that is too wide goes on a line with `room` columns left. -/
def cutPoint? (room : Nat) (chunk : Chunk) : Option Nat := do
  let reach ← slice? chunk 0 room
  match lastHyphen? reach with
  | some hyphen =>
    let before ← slice? chunk 0 hyphen
    return if 0 < hyphen && before.any (· ≠ '-') then hyphen + 1 else room
  | none => return room

/-- The columns left on a line of which `used` are taken. -/
def room? (width used : Nat) : Option Nat :=
  if width < 1 then some 1 else difference? width used

/-- One line's chunks and the chunks left for the next lines. -/
def takeLine? (width : Nat) (all : List Chunk) : Option (List Chunk × List Chunk) :=
  match fill width 0 all with
  | (line, chunk :: rest) =>
    if width < chunk.length then do
      let room ← room? width line.flatten.length
      let cut ← cutPoint? room chunk
      let front ← slice? chunk 0 cut
      let back ← slice? chunk cut chunk.length
      return (line ++ [front], back :: rest)
    else some (line, chunk :: rest)
  | (line, []) => some (line, [])

theorem lastHyphen?_of_notMem {cs : List Char} (h : '-' ∉ cs) : lastHyphen? cs = none := by
  rw [lastHyphen?, List.findIdx?_eq_none_iff.mpr, Option.map_none]
  intro c hc
  simpa using ne_of_mem_of_not_mem (List.mem_reverse.mp hc) h

theorem lastHyphen?_append {after : List Char} (h : '-' ∉ after) (before : List Char) :
    lastHyphen? (before ++ '-' :: after) = some before.length := by
  have first :
      (after.reverse ++ '-' :: before.reverse).findIdx? (· == '-') = some after.length := by
    rw [List.findIdx?_append, List.findIdx?_eq_none_iff.mpr]
    · simp [List.findIdx?_cons]
    · intro c hc
      simpa using ne_of_mem_of_not_mem (List.mem_reverse.mp hc) h
  have reversed : (before ++ '-' :: after).reverse = after.reverse ++ '-' :: before.reverse := by
    simp
  rw [lastHyphen?, reversed, first, Option.map_some, List.length_append, List.length_cons]
  congr 1
  omega

theorem dropWhile_ne_dash_of_notMem {cs : List Char} (h : '-' ∉ cs) (after : List Char) :
    (cs ++ after).dropWhile (· ≠ '-') = after.dropWhile (· ≠ '-') :=
  List.dropWhile_append_of_pos fun c hc => by simpa using ne_of_mem_of_not_mem hc h

theorem cutPoint?_eq {room : Nat} {chunk : Chunk} (h : room ≤ chunk.length) :
    cutPoint? room chunk = some (cutPoint room chunk) := by
  have taken : slice? chunk 0 room = some (chunk.take room) := by simp [slice?, h]
  have whole := List.take_append_drop room chunk
  rw [cutPoint?, taken, cutPoint, Option.bind_eq_bind, Option.bind_some]
  generalize chunk.take room = reach at *
  by_cases hyphen : '-' ∈ reach.reverse
  · obtain ⟨after, before, eq, last⟩ := List.eq_append_cons_of_mem hyphen
    obtain rfl : reach = before.reverse ++ '-' :: after.reverse := by
      simpa using congrArg List.reverse eq
    rw [lastHyphen?_append (by simpa using last)]
    have front : slice? chunk 0 before.reverse.length = some before.reverse := by
      rw [← whole, List.append_assoc]
      exact slice?_prefix ..
    have reached : '-' :: before = ('-' :: before).dropWhile (· ≠ '-') := by simp
    rw [eq, dropWhile_ne_dash_of_notMem last, ← reached]
    have some_other : (decide (0 < before.reverse.length) && before.reverse.any (· ≠ '-')) =
        (before.reverse ++ ['-']).any (· ≠ '-') := by
      cases before <;> simp
    simp only [front, Option.bind_some, List.reverse_cons, some_other, List.length_append,
      List.length_singleton, Option.pure_def]
  · rw [lastHyphen?_of_notMem (by simpa using hyphen)]
    have none := dropWhile_ne_dash_of_notMem hyphen []
    rw [List.append_nil] at none
    rw [none]
    rfl

theorem slice?_take {chunk : Chunk} {cut : Nat} (h : cut ≤ chunk.length) :
    slice? chunk 0 cut = some (chunk.take cut) := by
  simp [slice?, h]

theorem slice?_drop {chunk : Chunk} {cut : Nat} (h : cut ≤ chunk.length) :
    slice? chunk cut chunk.length = some (chunk.drop cut) := by
  simp [slice?, h]

theorem takeLine?_eq (width : Nat) (all : List Chunk) :
    takeLine? width all = some (takeLine width all) := by
  have fits := length_fill_le (Nat.zero_le width) all
  rw [Nat.zero_add] at fits
  unfold takeLine? takeLine
  generalize fill width 0 all = parts at *
  obtain ⟨line, left⟩ := parts
  cases left with
  | nil => rfl
  | cons chunk rest =>
    by_cases wide : width < chunk.length
    · have room : room? width line.flatten.length =
          some (if width < 1 then 1 else width - line.flatten.length) := by
        rw [room?, difference?, if_pos fits, apply_ite some]
      have room_le : (if width < 1 then 1 else width - line.flatten.length) ≤ chunk.length := by
        split <;> omega
      have cut_le := (cutPoint_le _ chunk).trans room_le
      simp only [wide, if_true, room, Option.bind_eq_bind, Option.bind_some, cutPoint?_eq room_le,
        slice?_take cut_le, slice?_drop cut_le, Option.pure_def]
    · simp only [wide, if_false]

/-! ### The lines -/

/-- The lines for the chunks that are left. -/
def wrapFrom? (width : Nat) : Nat → Bool → List Chunk → Option (List (List Char))
  | 0, _, _ => none
  | _ + 1, _, [] => some []
  | rounds + 1, started, first :: others => do
    let parts ← takeLine? width (lineStart started (first :: others))
    let line := dropBlankEnd parts.1
    if line.isEmpty then wrapFrom? width rounds started parts.2
    else
      let lines ← wrapFrom? width rounds true parts.2
      return line.flatten :: lines

theorem wrapFrom?_eq (hw : 0 < width) {rounds : Nat} {started : Bool} (laid : Laid all)
    (ready : Ready (lineStart started all))
    (enough : (wrapFrom width started all).length < rounds) :
    wrapFrom? width rounds started all = some (wrapFrom width started all) := by
  induction rounds generalizing started all with
  | zero => omega
  | succ rounds ih =>
    cases all with
    | nil => rw [wrapFrom?, wrapFrom_nil]
    | cons first others =>
      have set := firstLine_lineStart hw laid (List.cons_ne_nil _ _) ready
      rw [wrapFrom_of_ne_nil started hw laid (List.cons_ne_nil _ _) ready] at enough ⊢
      rw [wrapFrom?, takeLine?_eq, Option.bind_eq_bind, Option.bind_some]
      generalize takeLine width (lineStart started (first :: others)) = parts at *
      -- A round that sets no line would not bring the number of lines down, but there is none.
      have some_chunk : (dropBlankEnd parts.1).isEmpty = false := by
        obtain ⟨c, hc, -⟩ := set.solid_start
        cases empty : dropBlankEnd parts.1 with
        | nil => simp [empty] at hc
        | cons => rfl
      rw [List.length_cons] at enough
      have below : wrapFrom? width rounds true parts.2 = some (wrapFrom width true parts.2) :=
        ih set.laid set.laid.ready_dropSpace (Nat.lt_of_succ_lt_succ enough)
      simp only [some_chunk, Bool.false_eq_true, if_false, below, Option.bind_eq_bind,
        Option.bind_some, Option.pure_def]

/-- The lines of a text, with so many rounds for each word and for all the lines. -/
def wrapIn? (width rounds : Nat) (cs : List Char) : Option (List (List Char)) := do
  let groups ← (words cs).mapM fun word => splitWordAt? word rounds 0 0
  wrapFrom? width rounds false ([spaceChunk].intercalate groups)

theorem mapM_splitWordAt?_eq {rounds : Nat} {cut : List (List Char)}
    (enough : ∀ word ∈ cut, word.length < rounds) :
    cut.mapM (fun word => splitWordAt? word rounds 0 0) = some (cut.map (splitWord [] [])) := by
  induction cut with
  | nil => rfl
  | cons word cut ih =>
    have whole : splitWordAt? word rounds 0 0 = some (splitWord [] [] word) := by
      simpa using splitWordAt?_append [] [] word (enough word (by simp))
    rw [List.mapM_cons, whole, ih fun w hw => enough w (by simp [hw])]
    rfl

theorem length_le_of_mem_words {cs word : List Char} (h : word ∈ words cs) :
    word.length ≤ cs.length := by
  have inside := (List.sublist_flatten_of_mem h).length_le
  rw [flatten_words] at inside
  exact inside.trans (List.length_filter_le ..)

/-- One round more than the text has characters is enough to set it in lines. -/
theorem wrapIn?_eq (hw : 0 < width) {cs : List Char} {rounds : Nat} (enough : cs.length < rounds) :
    wrapIn? width rounds cs = some (wrap width cs) := by
  have short := length_wrap_le hw cs
  have some_char (line : List Char) (hl : line ∈ wrap width cs) : 1 ≤ line.length := by
    obtain ⟨c, hc, -⟩ := (typeset_wrap hw cs).solid_start hl
    exact List.length_pos_of_mem (List.mem_of_mem_head? hc)
  have lines : (wrap width cs).length ≤ (wrap width cs).flatten.length := by
    have := List.length_le_sum_of_one_le ((wrap width cs).map List.length)
      (by simpa using some_char)
    rwa [List.length_map, ← List.length_flatten] at this
  rw [wrapIn?, mapM_splitWordAt?_eq fun word hword =>
    (length_le_of_mem_words hword).trans_lt enough, Option.bind_eq_bind, Option.bind_some]
  exact wrapFrom?_eq hw (laid_chunks cs) (fun _ => isPiece_of_head?_chunks)
    ((lines.trans short).trans_lt enough)

end ResourceStubs.Doc
