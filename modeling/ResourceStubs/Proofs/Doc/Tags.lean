import ResourceStubs.Doc.Markup
import ResourceStubs.Proofs.Doc.StrayBlanks

/-! Text without its tags. What is left behind a tag has no `>` to close an earlier `<` with, since
a `<` with a `>` behind it starts a tag, so the parts of a text that are left over never make a tag
together. The line feeds that stand for block tags and the trimming of lines change white space
only. -/

namespace ResourceStubs.Doc

open Text

variable {cs : List Char}

/-! ### Block tags -/

theorem skipSlash_suffix (cs : List Char) : skipSlash cs <:+ cs := by
  unfold skipSlash
  split
  · exact List.suffix_cons ..
  · exact List.suffix_rfl

/-- Behind a block tag the text goes on. -/
theorem suffix_of_blockTagRest? {after : List Char} (h : blockTagRest? cs = some after) :
    after <:+ cs := by
  have rest : skipSlash (((skipSlash cs).dropWhile Char.isAlpha).dropWhile isBlank) <:+ cs :=
    (skipSlash_suffix _).trans <| (List.dropWhile_suffix _).trans <|
      (List.dropWhile_suffix _).trans (skipSlash_suffix cs)
  unfold blockTagRest? at h
  simp only at h
  split at h
  · split at h
    next tail eq =>
      obtain rfl := Option.some.inj h
      rw [eq] at rest
      exact (List.suffix_cons ..).trans rest
    next => cases h
  · cases h

/-- In place of a block tag stands a line feed, and nothing else is new. -/
theorem solid_breakBlocks_sublist (cs : List Char) :
    (solid (breakBlocks cs)).Sublist (solid cs) := by
  fun_induction breakBlocks cs with
  | case1 => exact .refl _
  | case2 rest after found ih =>
    have behind := (suffix_of_blockTagRest? found).sublist.filter (!isBlank ·)
    exact (ih.trans behind).trans ((List.sublist_cons_self ..).filter _)
  | case3 rest missing ih =>
    simpa only [← solid_append, List.singleton_append] using ih.append_left (solid ['<'])
  | case4 c rest hc ih =>
    simpa only [← solid_append, List.singleton_append] using ih.append_left (solid [c])

theorem breakBlocks_of_not_mem (h : '<' ∉ cs) : breakBlocks cs = cs := by
  fun_induction breakBlocks cs with
  | case1 => rfl
  | case2 | case3 => simp at h
  | case4 c rest hc ih => rw [ih (List.not_mem_of_not_mem_cons h)]

theorem eq_lineFeed_or_mem_of_mem_breakBlocks {c : Char} (h : c ∈ breakBlocks cs) :
    c = '\n' ∨ c ∈ cs := by
  fun_induction breakBlocks cs with
  | case1 => exact .inr h
  | case2 rest after found ih =>
    obtain rfl | h := List.mem_cons.mp h
    · exact .inl rfl
    · exact (ih h).imp_right fun h =>
        List.mem_cons_of_mem _ ((suffix_of_blockTagRest? found).subset h)
  | case3 rest missing ih =>
    obtain rfl | h := List.mem_cons.mp h
    · exact .inr List.mem_cons_self
    · exact (ih h).imp_right (List.mem_cons_of_mem _)
  | case4 d rest hd ih =>
    obtain rfl | h := List.mem_cons.mp h
    · exact .inr List.mem_cons_self
    · exact (ih h).imp_right (List.mem_cons_of_mem _)

/-! ### Tags -/

theorem dropTags_sublist (cs : List Char) : (dropTags cs).Sublist cs := by
  fun_induction dropTags cs with
  | case1 => exact .refl _
  | case2 c rest tag ih =>
    exact ((ih.trans (List.tail_sublist _)).trans (List.dropWhile_sublist _)).cons c
  | case3 c rest other ih => exact ih.cons_cons c

/-- No `<` is left with a `>` behind it. -/
theorem not_sublist_dropTags (cs : List Char) : ¬['<', '>'].Sublist (dropTags cs) := by
  fun_induction dropTags cs with
  | case1 => simp
  | case2 c rest tag ih => exact ih
  | case3 c rest other ih =>
    rw [List.sublist_cons_iff]
    rintro (h | ⟨closing, eq, h⟩)
    · exact ih h
    · obtain ⟨rfl, rfl⟩ := List.cons_eq_cons.mp eq
      exact other ⟨rfl, (dropTags_sublist rest).subset (List.singleton_sublist.mp h)⟩

theorem dropTags_of_not_mem (h : '<' ∉ cs) : dropTags cs = cs := by
  fun_induction dropTags cs with
  | case1 => rfl
  | case2 c rest tag ih => exact absurd (tag.1 ▸ List.mem_cons_self) h
  | case3 c rest other ih => rw [ih (List.not_mem_of_not_mem_cons h)]

/-! ### Entities -/

theorem decodeEntities_of_not_mem (h : '&' ∉ cs) : decodeEntities cs = cs := by
  have same : ∀ table : List (List Char × Char), (∀ entity ∈ table, '&' ∈ entity.1) →
      table.foldl (fun text entity => replaceAll entity.1 [entity.2] text) cs = cs := by
    intro table
    induction table with
    | nil => exact fun _ => rfl
    | cons entity table ih =>
      intro all
      rw [List.foldl_cons, replaceAll_of_not_mem (all entity List.mem_cons_self) h]
      exact ih fun e he => all e (List.mem_cons_of_mem _ he)
  exact same entities (by decide)

/-! ### Lines -/

theorem head?_dropWhile_isBlank {c : Char} (h : (cs.dropWhile isBlank).head? = some c) :
    isBlank c = false := by
  have := List.head?_dropWhile_not isBlank cs
  rwa [h] at this

theorem trimEnd_prefix (cs : List Char) : trimEnd cs <+: cs := by
  have front : cs.reverse.dropWhile isBlank <:+ cs.reverse := List.dropWhile_suffix _
  rw [← List.reverse_prefix, List.reverse_reverse] at front
  exact front

theorem not_startsBlank_trim (cs : List Char) : ¬StartsBlank (trim cs) := by
  rintro ⟨c, hc, blank⟩
  obtain ⟨rest, eq⟩ := trimEnd_prefix (trimStart cs)
  have head : (cs.dropWhile isBlank).head? = some c := by
    change (trimStart cs).head? = _
    rw [← eq, List.head?_append, show (trimEnd (trimStart cs)).head? = _ from hc, Option.some_or]
  rw [head?_dropWhile_isBlank head] at blank
  cases blank

theorem not_endsBlank_trim (cs : List Char) : ¬EndsBlank (trim cs) := by
  rintro ⟨c, hc, blank⟩
  rw [trim, trimEnd, List.getLast?_reverse] at hc
  rw [head?_dropWhile_isBlank hc] at blank
  cases blank

theorem not_mem_of_mem_splitOn {sep : Char} {part : List Char} (h : part ∈ cs.splitOn sep) :
    sep ∉ part := by
  induction cs generalizing part with
  | nil => simp_all
  | cons c cs ih =>
    obtain ⟨first, more, eq⟩ := List.exists_cons_of_ne_nil (List.splitOn_ne_nil sep cs)
    rw [List.splitOn_cons_eq_if_modifyHead] at h
    rw [eq] at h ih
    by_cases hc : c = sep
    · rw [if_pos (by simpa using hc)] at h
      obtain rfl | h := List.mem_cons.mp h
      · exact List.not_mem_nil
      · exact ih h
    · rw [if_neg (by simpa using hc), List.modifyHead_cons] at h
      obtain rfl | h := List.mem_cons.mp h
      · simpa [Ne.symm hc] using ih List.mem_cons_self
      · exact ih (List.mem_cons_of_mem _ h)

/-- A line has a character, no line feed and no white space at its ends. -/
theorem trimmed_line {line : List Char} (h : line ∈ trimmedLines cs) :
    line ≠ [] ∧ '\n' ∉ line ∧ ¬StartsBlank line ∧ ¬EndsBlank line := by
  obtain ⟨h, ne⟩ := List.mem_filter.mp h
  obtain ⟨raw, hraw, rfl⟩ := List.mem_map.mp h
  exact ⟨by simpa using ne,
    fun feed => not_mem_of_mem_splitOn hraw ((Pared.trim raw).sublist.subset feed),
    not_startsBlank_trim raw, not_endsBlank_trim raw⟩

theorem solid_flatten_trim (lines : List (List Char)) :
    solid ((lines.map trim).filter (· ≠ [])).flatten = solid lines.flatten := by
  induction lines with
  | nil => rfl
  | cons line lines ih =>
    rw [List.map_cons, List.flatten_cons, solid_append, ← ih, ← (Pared.trim line).solid_eq,
      ← solid_append]
    by_cases none : trim line = [] <;> simp [none]

/-- Lines lose white space only. -/
theorem solid_joined_trimmedLines (cs : List Char) :
    solid (['\n'].intercalate (trimmedLines cs)) = solid cs := by
  rw [solid_intercalate isBlank_lineFeed, trimmedLines, solid_flatten_trim,
    ← solid_intercalate isBlank_lineFeed, List.intercalate_splitOn]

/-- The lines of a plain text are those that it is joined from. -/
theorem splitOn_joined_trimmedLines (ne : trimmedLines cs ≠ []) :
    (['\n'].intercalate (trimmedLines cs)).splitOn '\n' = trimmedLines cs :=
  List.splitOn_intercalate '\n' (fun _ hl => (trimmed_line hl).2.1) ne

/-! ### Plain text -/

theorem solid_plainText (h : '&' ∉ cs) :
    solid (plainText cs) = solid (dropTags (breakBlocks cs)) := by
  rw [plainText, solid_joined_trimmedLines, decodeEntities_of_not_mem]
  intro mem
  obtain feed | mem := eq_lineFeed_or_mem_of_mem_breakBlocks ((dropTags_sublist _).subset mem)
  · cases feed
  · exact h mem

/-- Without ampersands a plain text has no tag left, it has no character but white space that is not
in the markup in this order, and all of them where nothing starts a tag. Its lines are not empty and
have no white space at their ends. -/
theorem stripTags_untagged {markup : String} (free : '&' ∉ markup.toList) :
    (∀ before after, (stripTags markup).toList = before ++ '<' :: after → '>' ∉ after) ∧
      (solid (stripTags markup).toList).Sublist (solid markup.toList) ∧
      ('<' ∉ markup.toList → solid (stripTags markup).toList = solid markup.toList) ∧
      (stripTags markup ≠ "" → ∀ line ∈ (stripTags markup).toList.splitOn '\n',
        line ≠ [] ∧ ¬StartsBlank line ∧ ¬EndsBlank line) := by
  have text : (stripTags markup).toList = plainText markup.toList := String.toList_ofList
  have kept := solid_plainText free
  rw [text]
  refine ⟨fun before after eq close => ?_, ?_, fun none => ?_, fun some_char => ?_⟩
  · have tag : ['<', '>'].Sublist (plainText markup.toList) := by
      rw [eq]
      exact ((List.singleton_sublist.mpr close).cons_cons '<').trans (List.sublist_append_right ..)
    have solid_tag := tag.filter (!isBlank ·)
    change (['<', '>'] : List Char).Sublist (solid _) at solid_tag
    rw [kept] at solid_tag
    exact not_sublist_dropTags _ (solid_tag.trans List.filter_sublist)
  · rw [kept]
    exact ((dropTags_sublist _).filter _).trans (solid_breakBlocks_sublist _)
  · rw [kept, breakBlocks_of_not_mem none, dropTags_of_not_mem none]
  · have ne : trimmedLines (decodeEntities (dropTags (breakBlocks markup.toList))) ≠ [] := by
      intro none
      refine some_char (String.toList_inj.mp ?_)
      rw [text, plainText, none]
      rfl
    rw [plainText, splitOn_joined_trimmedLines ne]
    intro line hl
    obtain ⟨some_line, -, starts, ends⟩ := trimmed_line hl
    exact ⟨some_line, starts, ends⟩

/-- A block tag within another tag goes with it, and a `<` that no `>` follows stays. -/
theorem stripTags_untagged_nested :
    let markup := " 3 > 2 <b\n<li >x>is <i>so\n<br/>but 2 < 3"
    '&' ∉ markup.toList ∧ stripTags markup = "3 > 2 is so\nbut 2 < 3" ∧
      (∀ before after, (stripTags markup).toList = before ++ '<' :: after → '>' ∉ after) ∧
      (solid (stripTags markup).toList).Sublist (solid markup.toList) := by
  have free : '&' ∉ " 3 > 2 <b\n<li >x>is <i>so\n<br/>but 2 < 3".toList := by decide
  have text :
      stripTags " 3 > 2 <b\n<li >x>is <i>so\n<br/>but 2 < 3" = "3 > 2 is so\nbut 2 < 3" := by
    decide +kernel
  obtain ⟨untagged, kept, -, -⟩ := stripTags_untagged free
  exact ⟨free, text, untagged, kept⟩

end ResourceStubs.Doc
