import ResourceStubs.Assembly.Documentation
import ResourceStubs.Proofs.Doc.Lines

/-! The summary of a documentation text. Each stage of its making leaves a text that is no longer,
but for the one character that closes it, and wrapping loses white space only, so that the length,
the pairs of marks and the full stop at the end are still there in the lines. -/

namespace ResourceStubs.Doc

open Text

/-! ### How long the text is after each stage -/

theorem length_cutToLimit_le (limit : Nat) (cs : List Char) :
    (cutToLimit limit cs).length ≤ max limit 3 := by
  unfold cutToLimit
  split
  · simp only [List.length_append, List.length_take, List.length_cons, List.length_nil]
    omega
  · omega

theorem length_headingText_le (line : List Char) : (headingText line).length ≤ line.length := by
  have uncolon := ((trim line).reverse.dropWhile_sublist (· == ':')).length_le
  have trimmed := (Pared.trim line).sublist.length_le
  rw [List.length_reverse] at uncolon
  rw [headingText, List.length_reverse]
  omega

theorem sum_firstSentence_le (lines : List (List Char)) :
    ((firstSentence lines).map (·.length + 1)).sum ≤ (lines.map (·.length + 1)).sum := by
  induction lines with
  | nil => simp [firstSentence]
  | cons raw rest ih =>
    have heading := length_headingText_le raw
    simp only [firstSentence, List.map_cons, List.sum_cons]
    split
    · simp
    · split
      · omega
      · split
        next sentence _ split =>
          have := congrArg List.length (append_of_splitOnce? split)
          simp only [List.length_append, List.map_cons, List.sum_cons, List.map_nil,
            List.sum_nil] at this ⊢
          omega
        next =>
          simp only [List.map_cons, List.sum_cons]
          split
          · simp
            omega
          · omega

/-- The sentence is no longer than the text that its lines are found in. -/
theorem length_firstSentence_le (cs : List Char) :
    ([' '].intercalate (firstSentence (cs.splitOn '\n'))).length ≤ cs.length := by
  have whole := length_intercalate '\n' (cs.splitOn '\n')
  rw [List.intercalate_splitOn] at whole
  have := sum_firstSentence_le (cs.splitOn '\n')
  rw [length_intercalate]
  omega

theorem length_singleMarks_le (cs : List Char) : (singleMarks cs).length ≤ cs.length :=
  (length_replaceAll_le (by simp) _).trans (length_replaceAll_le (by simp) cs)

/-! ### Closing the sentence -/

theorem length_closeCode_le (cs : List Char) : (closeCode cs).length ≤ cs.length + 1 := by
  unfold closeCode
  split <;> simp

/-- Every mark has a partner. -/
theorem count_closeCode (cs : List Char) : (closeCode cs).count codeMark % 2 = 0 := by
  unfold closeCode
  split
  · rw [List.count_append, List.count_singleton_self]
    omega
  · omega

theorem length_closeSentence_le (cs : List Char) : (closeSentence cs).length ≤ cs.length + 1 := by
  unfold closeSentence
  split <;> simp

theorem count_closeSentence (cs : List Char) :
    (closeSentence cs).count codeMark = cs.count codeMark := by
  unfold closeSentence
  split
  · rw [List.count_append]
    rfl
  · rfl

theorem getLast?_closeSentence {cs : List Char} (h : closeSentence cs ≠ []) :
    (closeSentence cs).getLast? = some '.' := by
  unfold closeSentence at h ⊢
  split
  · simp
  · rename_i closed
    rw [if_neg closed] at h
    exact Decidable.byContradiction fun open_end => closed ⟨h, open_end⟩

theorem length_summarySentence_le (limit : Nat) (cs : List Char) :
    (summarySentence limit cs).length ≤ max limit 3 + 2 := by
  have read := length_cutToLimit_le limit cs
  have sentence := length_firstSentence_le (cutToLimit limit cs)
  simp only [summarySentence]
  generalize [' '].intercalate (firstSentence ((cutToLimit limit cs).splitOn '\n')) = text at *
  have marks := length_singleMarks_le text
  have trimmed := (Pared.trim (singleMarks text)).sublist.length_le
  have code := length_closeCode_le (trim (singleMarks text))
  have stop := length_closeSentence_le (closeCode (trim (singleMarks text)))
  omega

theorem getLast?_summarySentence {limit : Nat} {cs : List Char}
    (h : summarySentence limit cs ≠ []) :
    (summarySentence limit cs).getLast? = some '.' := getLast?_closeSentence h

theorem count_summarySentence (limit : Nat) (cs : List Char) :
    (summarySentence limit cs).count codeMark % 2 = 0 := by
  rw [summarySentence, count_closeSentence]
  exact count_closeCode _

/-! ### The summary -/

/-- The text is set as a summary from at most `limit` characters: in lines of 1 to 80 characters,
none of them blank, that end in a full stop and have a partner for every mark around code. -/
structure WellSet (limit : Nat) (text : List Char) : Prop where
  lines : ∃ lines : List (List Char), lines ≠ [] ∧ text = ['\n'].intercalate lines ∧
    ∀ line ∈ lines, 1 ≤ line.length ∧ line.length ≤ 80 ∧ '\n' ∉ line ∧
      ∃ c ∈ line, isBlank c = false
  no_blank_line : ¬['\n', '\n'] <:+: text
  ends : text.getLast? = some '.'
  marks : text.count codeMark % 2 = 0
  size : (text.filter (· ≠ '\n')).length ≤ max limit 3 + 2

theorem toList_summary (limit : Nat) (documentation : String) :
    (summary limit documentation).toList =
      ['\n'].intercalate (wrap 80 (summarySentence limit documentation.toList)) := by
  rw [summary, String.toList_ofList]
  rfl

/-- A line of a summary fits, is not blank and has no line feed in it. -/
theorem summary_line {limit : Nat} {cs line : List Char}
    (hl : line ∈ wrap 80 (summarySentence limit cs)) :
    line ≠ [] ∧ line.length ≤ 80 ∧ '\n' ∉ line ∧ ∃ c ∈ line, isBlank c = false := by
  have set := typeset_wrap (by omega : 0 < 80) (summarySentence limit cs)
  obtain ⟨c, hc, solid⟩ := set.solid_start hl
  have mem := List.mem_of_mem_head? hc
  refine ⟨List.ne_nil_of_mem mem, set.fits hl, fun feed => ?_, c, mem, solid⟩
  obtain space | solid := eq_space_of_mem_wrap (by omega) hl feed
  · simp at space
  · simp [isBlank_lineFeed] at solid

theorem isChain_summary (limit : Nat) (documentation : String) :
    (summary limit documentation).toList.IsChain fun a b => a ≠ '\n' ∨ b ≠ '\n' := by
  rw [toList_summary]
  exact isChain_intercalate (fun _ hl => (summary_line hl).1) fun _ hl => (summary_line hl).2.2.1

/-- A summary says all of its sentence. -/
theorem solid_summary (limit : Nat) (documentation : String) :
    solid (summary limit documentation).toList =
      solid (summarySentence limit documentation.toList) := by
  rw [toList_summary, solid_intercalate isBlank_lineFeed, solid_wrap (by omega)]

/-- A summary is empty only where its sentence is. -/
theorem summary_eq_empty_iff {limit : Nat} {documentation : String} :
    summary limit documentation = "" ↔ summarySentence limit documentation.toList = [] := by
  constructor
  · intro empty
    refine Decidable.byContradiction fun ne => ?_
    have kept := solid_summary limit documentation
    rw [empty] at kept
    have := solid_eq_nil_iff.mp kept.symm '.'
      (List.mem_of_getLast? (getLast?_summarySentence ne))
    exact absurd this (by decide)
  · intro none
    rw [← String.toList_eq_nil_iff, toList_summary, none]
    simp [wrap, chunks, words, wordsFrom, wrapFrom]

/-- A summary that says anything is well set. -/
theorem wellSet_summary {limit : Nat} {documentation : String}
    (h : summary limit documentation ≠ "") :
    WellSet limit (summary limit documentation).toList := by
  have chain := isChain_summary limit documentation
  have some_line : wrap 80 (summarySentence limit documentation.toList) ≠ [] := fun none => by
    have := toList_summary limit documentation
    rw [none] at this
    exact h (String.toList_eq_nil_iff.mp this)
  have ends := getLast?_summarySentence (summary_eq_empty_iff.not.mp h)
  have marks := count_summarySentence limit documentation.toList
  have size := length_summarySentence_le limit documentation.toList
  have line {l : List Char} (hl : l ∈ wrap 80 (summarySentence limit documentation.toList)) :=
    summary_line hl
  rw [toList_summary] at chain ⊢
  generalize summarySentence limit documentation.toList = sentence at *
  have apart : (['\n'].intercalate (wrap 80 sentence)).filter (· ≠ '\n') =
      (wrap 80 sentence).flatten := filter_intercalate fun l hl => (line hl).2.2.1
  refine ⟨⟨_, some_line, rfl, fun l hl => ?_⟩, not_infix_of_isChain chain, ?_, ?_, ?_⟩
  · exact ⟨List.length_pos_iff.mpr (line hl).1, (line hl).2⟩
  · rw [getLast?_intercalate fun l hl => (line hl).1]
    exact getLast?_flatten_wrap (by omega) ends (by decide)
  · have mark_solid : isBlank codeMark = false := by decide
    rw [← List.count_filter (p := (· ≠ '\n')) (by decide), apart, ← count_solid mark_solid,
      solid_wrap (by omega), count_solid mark_solid]
    exact marks
  · rw [apart]
    exact (length_wrap_le (by omega) sentence).trans size

end ResourceStubs.Doc

namespace ResourceStubs

open Text

/-- The links to a method that its docstring ends with. -/
def methodLinks (service : ServiceName) (sdkName stubName methodName : String) : String :=
  let sdkLink := service.sdkLinkTo [sdkName, methodName]
  let stubLink := service.stubLinkTo .serviceResource [stubName, s!"{methodName} method"]
  s!"[Show boto3 documentation]({sdkLink})\n[Show boto3-stubs documentation]({stubLink})"

theorem docstring_eq (service : ServiceName) (limit : Nat)
    (sdkName stubName methodName text : String) :
    docstring service limit sdkName stubName methodName text =
      (if (Doc.summary limit text).isEmpty then "" else Doc.summary limit text ++ "\n\n") ++
        methodLinks service sdkName stubName methodName := rfl

/-- Either there is nothing to sum up, and a docstring has the links only; or the summary is well
set, and the first blank line of a docstring is the one between the summary and the links. -/
theorem summary_eq_empty_or_wellSet (limit : Nat) (text : String) :
    (Doc.summary limit text = "" ∧ ∀ service sdkName stubName methodName,
        docstring service limit sdkName stubName methodName text =
          methodLinks service sdkName stubName methodName) ∨
      (Doc.WellSet limit (Doc.summary limit text).toList ∧
        ∀ service sdkName stubName methodName,
          splitOnce? ['\n', '\n']
            (docstring service limit sdkName stubName methodName text).toList =
            some ((Doc.summary limit text).toList,
              (methodLinks service sdkName stubName methodName).toList)) := by
  by_cases h : Doc.summary limit text = ""
  · refine .inl ⟨h, fun service sdkName stubName methodName => ?_⟩
    rw [docstring_eq, h]
    rfl
  · have set := Doc.wellSet_summary h
    refine .inr ⟨set, fun service sdkName stubName methodName => ?_⟩
    have ends : (Doc.summary limit text).toList.getLast? ≠ some '\n' := by
      rw [set.ends]
      decide
    have split := splitOnce?_twice_append (Doc.isChain_summary limit text) ends
      (methodLinks service sdkName stubName methodName).toList
    rw [docstring_eq, if_neg (by simpa using h)]
    simpa [String.toList_append] using split

end ResourceStubs
