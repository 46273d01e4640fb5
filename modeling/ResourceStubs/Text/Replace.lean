/-! Replacing and finding a piece of text, from left to right without overlap. -/

namespace ResourceStubs.Text

/-- Every occurrence of a non-empty `old` becomes `new`; the search goes on behind each one. -/
def replaceAll (old new : List Char) (cs : List Char) : List Char :=
  match cs with
  | [] => []
  | c :: rest =>
    if old.isPrefixOf (c :: rest) then new ++ replaceAll old new (rest.drop (old.length - 1))
    else c :: replaceAll old new rest
termination_by cs.length
decreasing_by all_goals simp only [List.length_cons, List.length_drop]; omega

/-- The text before the first occurrence of `mark` and the text behind it. -/
def splitOnce? (mark : List Char) : List Char → Option (List Char × List Char)
  | [] => if mark.isEmpty then some ([], []) else none
  | c :: rest =>
    if mark.isPrefixOf (c :: rest) then some ([], (c :: rest).drop mark.length)
    else (splitOnce? mark rest).map fun parts => (c :: parts.1, parts.2)

@[simp] theorem replaceAll_nil (old new : List Char) : replaceAll old new [] = [] := by
  rw [replaceAll]

/-- A split loses only the mark itself. -/
theorem append_of_splitOnce? {mark cs before after : List Char}
    (h : splitOnce? mark cs = some (before, after)) : before ++ mark ++ after = cs := by
  induction cs generalizing before after with
  | nil =>
    simp only [splitOnce?] at h
    split at h
    · rename_i empty
      have : mark = [] := by simpa using empty
      simp_all
    · simp at h
  | cons c rest ih =>
    simp only [splitOnce?] at h
    split at h
    · rename_i found
      obtain ⟨tail, eq⟩ := List.isPrefixOf_iff_prefix.1 found
      simp only [Option.some.injEq, Prod.mk.injEq] at h
      rw [← h.1, ← h.2, ← eq]
      simp
    · obtain ⟨⟨b, a⟩, hr, eq⟩ := Option.map_eq_some_iff.1 h
      simp only [Prod.mk.injEq] at eq
      rw [← eq.1, ← eq.2]
      simpa using ih hr

/-- A text is split exactly if the mark occurs in it. -/
theorem isSome_splitOnce?_iff {mark cs : List Char} :
    (splitOnce? mark cs).isSome ↔ mark <:+: cs := by
  induction cs with
  | nil =>
    rw [splitOnce?, List.infix_nil, ← List.isEmpty_iff]
    cases mark.isEmpty <;> simp
  | cons c rest ih =>
    rw [splitOnce?, List.infix_cons_iff, ← ih, ← List.isPrefixOf_iff_prefix]
    split <;> simp_all

theorem splitOnce?_char_cons (mark c : Char) (cs : List Char) :
    splitOnce? [mark] (c :: cs) =
      if c = mark then some ([], cs)
      else (splitOnce? [mark] cs).map fun parts => (c :: parts.1, parts.2) := by
  simp only [splitOnce?, List.isPrefixOf, Bool.and_true, beq_iff_eq, List.length_singleton,
    List.drop_succ_cons, List.drop_zero, eq_comm (a := mark)]

/-- A text without the mark is not split. -/
theorem splitOnce?_char_eq_none_iff {mark : Char} {cs : List Char} :
    splitOnce? [mark] cs = none ↔ mark ∉ cs := by
  induction cs with
  | nil => simp [splitOnce?]
  | cons c cs ih =>
    rw [splitOnce?_char_cons, List.mem_cons, not_or, ← ih]
    by_cases h : c = mark
    · simp [h]
    · have h' : ¬mark = c := fun e => h e.symm
      simp [h, h']

/-- A text is split at a mark behind it, unless it has one itself. -/
theorem splitOnce?_char_append (mark : Char) (before after : List Char) :
    splitOnce? [mark] (before ++ mark :: after) =
      match splitOnce? [mark] before with
      | some (first, rest) => some (first, rest ++ mark :: after)
      | none => some (before, after) := by
  induction before with
  | nil => simp [splitOnce?_char_cons, splitOnce?]
  | cons c before ih =>
    rw [List.cons_append, splitOnce?_char_cons, splitOnce?_char_cons, ih]
    by_cases h : c = mark
    · simp [h]
    · rw [if_neg h, if_neg h]
      cases splitOnce? [mark] before <;> rfl

end ResourceStubs.Text
