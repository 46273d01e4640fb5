import ResourceStubs.Proofs.Text.Joined
import ResourceStubs.Text.Blank

/-! White space taken out of a text, and the words between it. Trimming a text and setting its words
apart by single spaces keep every other character in its place. -/

namespace ResourceStubs.Text

/-- The characters that are not white space. -/
def solid (cs : List Char) : List Char := cs.filter (!isBlank ·)

@[simp] theorem solid_nil : solid [] = [] := rfl

@[simp] theorem solid_append (cs ds : List Char) : solid (cs ++ ds) = solid cs ++ solid ds :=
  List.filter_append ..

theorem solid_eq_nil_iff {cs : List Char} : solid cs = [] ↔ ∀ c ∈ cs, isBlank c = true := by
  simp [solid]

theorem solid_eq_self_iff {cs : List Char} : solid cs = cs ↔ ∀ c ∈ cs, isBlank c = false := by
  simp [solid]

/-- White space behind a text is not what it starts with. -/
theorem head?_of_append_blank {cs blank : List Char} {c : Char}
    (hblank : ∀ b ∈ blank, isBlank b = true) (h : (cs ++ blank).head? = some c)
    (hc : isBlank c = false) : cs.head? = some c := by
  cases cs with
  | nil =>
    have := hblank c (List.mem_of_mem_head? h)
    rw [hc] at this
    cases this
  | cons d cs => exact h

/-- A text that ends in another character has no white space at its end. -/
theorem eq_nil_of_append_blank {cs blank : List Char} {c : Char}
    (hblank : ∀ b ∈ blank, isBlank b = true) (h : (cs ++ blank).getLast? = some c)
    (hc : isBlank c = false) : blank = [] := by
  rw [List.getLast?_append] at h
  cases hlast : blank.getLast? with
  | none => exact List.getLast?_eq_none_iff.mp hlast
  | some d =>
    rw [hlast] at h
    obtain rfl : d = c := Option.some.inj h
    have := hblank d (List.mem_of_getLast? hlast)
    rw [hc] at this
    cases this

/-- A character that is not white space occurs as often without the white space. -/
theorem count_solid {c : Char} (hc : isBlank c = false) (cs : List Char) :
    (solid cs).count c = cs.count c :=
  List.count_filter (by simp [hc])

/-- `kept` is the text without some of its white space. -/
structure Pared (kept cs : List Char) : Prop where
  sublist : kept.Sublist cs
  solid_eq : solid kept = solid cs

namespace Pared

theorem refl (cs : List Char) : Pared cs cs := ⟨List.Sublist.refl cs, rfl⟩

theorem trans {as bs cs : List Char} (h : Pared as bs) (h' : Pared bs cs) : Pared as cs :=
  ⟨h.sublist.trans h'.sublist, h.solid_eq.trans h'.solid_eq⟩

theorem append {as bs cs ds : List Char} (h : Pared as bs) (h' : Pared cs ds) :
    Pared (as ++ cs) (bs ++ ds) :=
  ⟨h.sublist.append h'.sublist, by rw [solid_append, solid_append, h.solid_eq, h'.solid_eq]⟩

theorem reverse {as bs : List Char} (h : Pared as bs) : Pared as.reverse bs.reverse :=
  ⟨h.sublist.reverse, by simpa [solid] using h.solid_eq⟩

theorem nil_of_blank {cs : List Char} (h : ∀ c ∈ cs, isBlank c = true) : Pared [] cs :=
  ⟨List.nil_sublist cs, (solid_eq_nil_iff.mpr h).symm⟩

theorem trimStart (cs : List Char) : Pared (trimStart cs) cs := by
  have dropped : Pared [] (cs.takeWhile isBlank) :=
    nil_of_blank (List.all_eq_true.mp List.all_takeWhile)
  have := dropped.append (refl (cs.dropWhile isBlank))
  rwa [List.takeWhile_append_dropWhile] at this

theorem trim (cs : List Char) : Pared (trim cs) cs := by
  have ending := (trimStart (Text.trimStart cs).reverse).reverse
  rw [List.reverse_reverse] at ending
  exact ending.trans (trimStart cs)

end Pared

theorem solid_intercalate {sep : Char} (hsep : isBlank sep = true) (parts : List (List Char)) :
    solid ([sep].intercalate parts) = solid parts.flatten := by
  induction parts with
  | nil => rfl
  | cons part rest ih =>
    cases rest with
    | nil => simp
    | cons next rest =>
      have : solid [sep] = [] := solid_eq_nil_iff.mpr (by simpa using hsep)
      rw [List.intercalate_cons_cons, solid_append, solid_append, ih, this]
      simp

/-! ### Words -/

theorem wordsFrom_solid {word : List Char} (hword : ∀ c ∈ word, isBlank c = false)
    (cs : List Char) : ∀ w ∈ wordsFrom word cs, w ≠ [] ∧ ∀ c ∈ w, isBlank c = false := by
  induction cs generalizing word with
  | nil =>
    cases word with
    | nil => simp [wordsFrom]
    | cons c word =>
      intro w hw
      obtain rfl : w = (c :: word).reverse := by simpa [wordsFrom] using hw
      exact ⟨by simp, fun d hd => hword d (List.mem_reverse.mp hd)⟩
  | cons c cs ih =>
    simp only [wordsFrom]
    split
    · split
      · exact ih (by simp)
      · rename_i some_word
        intro w hw
        obtain rfl | hw := List.mem_cons.mp hw
        · exact ⟨by simpa using some_word, by simpa using hword⟩
        · exact ih (by simp) w hw
    · rename_i hc
      exact ih (by simpa [hc] using hword)

/-- A word has a character and no white space. -/
theorem words_solid {cs w : List Char} (h : w ∈ words cs) :
    w ≠ [] ∧ ∀ c ∈ w, isBlank c = false :=
  wordsFrom_solid (by simp) cs w h

theorem flatten_wordsFrom (word cs : List Char) :
    (wordsFrom word cs).flatten = word.reverse ++ solid cs := by
  induction cs generalizing word with
  | nil => cases word <;> simp [wordsFrom]
  | cons c cs ih =>
    simp only [wordsFrom]
    split
    · rename_i hc
      split <;> simp_all [solid]
    · rename_i hc
      simp [ih, solid, hc]

/-- The words have all characters but the white space. -/
theorem flatten_words (cs : List Char) : (words cs).flatten = solid cs := flatten_wordsFrom [] cs

theorem wordsFrom_append_blank {blank : Char} (hblank : isBlank blank = true)
    (word left right : List Char) :
    wordsFrom word (left ++ blank :: right) = wordsFrom word left ++ words right := by
  induction left generalizing word with
  | nil => cases word <;> simp [wordsFrom, words, hblank]
  | cons c left ih =>
    simp only [List.cons_append, wordsFrom]
    split
    · split
      · exact ih []
      · rw [ih, List.cons_append]
    · exact ih (c :: word)

/-- White space parts the words before it from those behind it. -/
theorem words_append_blank {blank : Char} (hblank : isBlank blank = true)
    (left right : List Char) : words (left ++ blank :: right) = words left ++ words right :=
  wordsFrom_append_blank hblank [] left right

theorem exists_of_wordsFrom_eq_append {word cs : List Char} {before after : List (List Char)}
    (h : wordsFrom word cs = before ++ after) (some_before : before ≠ [])
    (some_after : after ≠ []) :
    ∃ left blank right, cs = left ++ blank :: right ∧ isBlank blank = true ∧
      wordsFrom word left = before ∧ words right = after := by
  obtain ⟨first, before, rfl⟩ := List.exists_cons_of_ne_nil some_before
  induction cs generalizing word first before with
  | nil =>
    obtain ⟨next, after, rfl⟩ := List.exists_cons_of_ne_nil some_after
    cases word <;> simp [wordsFrom] at h
  | cons c cs ih =>
    rw [wordsFrom] at h
    split at h
    next hc =>
      split at h
      next none =>
        obtain ⟨left, blank, right, rfl, hblank, eqBefore, eqAfter⟩ := ih first before h some_before
        exact ⟨c :: left, blank, right, rfl, hblank, by simp [wordsFrom, hc, none, eqBefore],
          eqAfter⟩
      next some_word =>
        obtain ⟨rfl, below⟩ := List.cons_eq_cons.mp h
        cases before with
        | nil => exact ⟨[], c, cs, rfl, hc, by simp [wordsFrom, some_word], below⟩
        | cons next before =>
          obtain ⟨left, blank, right, rfl, hblank, eqBefore, eqAfter⟩ :=
            ih next before below (List.cons_ne_nil _ _)
          exact ⟨c :: left, blank, right, rfl, hblank, by
            rw [wordsFrom, if_pos hc, if_neg some_word, eqBefore], eqAfter⟩
    next hc =>
      obtain ⟨left, blank, right, rfl, hblank, eqBefore, eqAfter⟩ := ih first before h some_before
      exact ⟨c :: left, blank, right, rfl, hblank, by rw [wordsFrom, if_neg hc, eqBefore], eqAfter⟩

/-- Between two words there is white space, and the text falls apart there. -/
theorem exists_of_words_eq_append {cs : List Char} {before after : List (List Char)}
    (h : words cs = before ++ after) (some_before : before ≠ []) (some_after : after ≠ []) :
    ∃ left blank right, cs = left ++ blank :: right ∧ isBlank blank = true ∧
      words left = before ∧ words right = after :=
  exists_of_wordsFrom_eq_append h some_before some_after

theorem sum_wordsFrom_le (word cs : List Char) :
    ((wordsFrom word cs).map (·.length + 1)).sum ≤ word.length + cs.length + 1 := by
  induction cs generalizing word with
  | nil => cases word <;> simp [wordsFrom]
  | cons c cs ih =>
    simp only [wordsFrom]
    have fresh := ih []
    have longer := ih (c :: word)
    simp only [List.length_cons, List.length_nil] at *
    split
    · split
      · omega
      · simp only [List.map_cons, List.sum_cons, List.length_reverse]
        omega
    · omega

theorem length_intercalate_words_le (cs : List Char) :
    ([' '].intercalate (words cs)).length ≤ cs.length := by
  have := sum_wordsFrom_le [] cs
  rw [length_intercalate, words]
  simp only [List.length_nil] at this
  omega

theorem getLast?_intercalate_wordsFrom {d : Char} (hd : isBlank d = false) (word cs : List Char) :
    ([' '].intercalate (wordsFrom word (cs ++ [d]))).getLast? = some d := by
  induction cs generalizing word with
  | nil => simp [wordsFrom, hd]
  | cons c cs ih =>
    simp only [List.cons_append, wordsFrom]
    split
    · split
      · exact ih []
      · have some_word : wordsFrom [] (cs ++ [d]) ≠ [] := fun none => by
          have := ih []
          simp [none] at this
        rw [List.intercalate_cons_of_ne_nil some_word, List.getLast?_append, ih []]
        rfl
    · exact ih (c :: word)

/-- A text that ends in a character still ends in it when its words are set apart by spaces. -/
theorem getLast?_intercalate_words {cs : List Char} {d : Char} (h : cs.getLast? = some d)
    (hd : isBlank d = false) : ([' '].intercalate (words cs)).getLast? = some d := by
  obtain ⟨before, rfl⟩ := List.getLast?_eq_some_iff.mp h
  exact getLast?_intercalate_wordsFrom hd [] before

end ResourceStubs.Text
