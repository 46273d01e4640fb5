import ResourceStubs.Proofs.Doc.Tags

/-! Entities decoded once. They are decoded one kind after the other, each in the whole text, and
yet it is as if they were decoded in one pass: an entity starts at an ampersand and has no other, so
no two overlap, and none has a character that an earlier kind has become. The ampersand comes last,
so that no decoded one starts an entity. -/

namespace ResourceStubs.Doc

open Text

/-- Each entity becomes its character, in one pass from left to right that goes on behind the
entity. -/
def decodeOnce : List Char → List Char
  | '&' :: 'l' :: 't' :: ';' :: rest => '<' :: decodeOnce rest
  | '&' :: 'g' :: 't' :: ';' :: rest => '>' :: decodeOnce rest
  | '&' :: 'q' :: 'u' :: 'o' :: 't' :: ';' :: rest => '"' :: decodeOnce rest
  | '&' :: '#' :: '3' :: '9' :: ';' :: rest => '\'' :: decodeOnce rest
  | '&' :: 'a' :: 'm' :: 'p' :: ';' :: rest => '&' :: decodeOnce rest
  | c :: rest => c :: decodeOnce rest
  | [] => []

/-- Codes and the characters that they stand for. -/
abbrev CodeTable := List (List Char × Char)

/-- One pass with the codes of a table. -/
def decodePass (table : CodeTable) (cs : List Char) : List Char :=
  match cs with
  | [] => []
  | c :: rest =>
    match table.find? (·.1.isPrefixOf (c :: rest)) with
    | some code => code.2 :: decodePass table (rest.drop (code.1.length - 1))
    | none => c :: decodePass table rest
termination_by cs.length
decreasing_by all_goals simp only [List.length_cons, List.length_drop]; omega

/-- The codes of the table start with an ampersand and have no other, and none has a character that
one before it stands for. -/
structure Sequential (table : CodeTable) : Prop where
  starts : ∀ code ∈ table, code.1.head? = some '&'
  single : ∀ code ∈ table, '&' ∉ code.1.tail
  fresh : table.Pairwise fun first later => first.2 ∉ later.1

theorem sequential_entities : Sequential entities := ⟨by decide, by decide, by decide⟩

variable {table : CodeTable} {code : List Char × Char} {name cs rest : List Char} {c : Char}

namespace Sequential

theorem exists_cons (h : Sequential table) (hc : code ∈ table) :
    ∃ name, code.1 = '&' :: name ∧ '&' ∉ name := by
  obtain ⟨name, eq⟩ := List.head?_eq_some_iff.mp (h.starts code hc)
  exact ⟨name, eq, by simpa [eq] using h.single code hc⟩

theorem of_concat (h : Sequential (table ++ [code])) :
    Sequential table ∧ ∀ first ∈ table, first.2 ∉ code.1 :=
  have apart := List.pairwise_append.mp h.fresh
  ⟨⟨fun c hc => h.starts c (List.mem_append_left _ hc),
    fun c hc => h.single c (List.mem_append_left _ hc), apart.1⟩,
    fun first hf => apart.2.2 first hf code (List.mem_singleton.mpr rfl)⟩

/-- A code is found at an ampersand only. -/
theorem eq_of_find? (h : Sequential table)
    (found : table.find? (·.1.isPrefixOf (c :: rest)) = some code) :
    c = '&' ∧ code ∈ table ∧ ∃ name, code.1 = '&' :: name ∧ '&' ∉ name ∧ name <+: rest := by
  have mem := List.mem_of_find?_eq_some found
  obtain ⟨name, eq, single⟩ := h.exists_cons mem
  have starts : code.1 <+: c :: rest := by simpa using List.find?_some found
  rw [eq, List.cons_prefix_cons] at starts
  exact ⟨starts.1.symm, mem, name, eq, single, starts.2⟩

theorem decodePass_cons_of_ne (h : Sequential table) (hc : c ≠ '&') (rest : List Char) :
    decodePass table (c :: rest) = c :: decodePass table rest := by
  rw [decodePass]
  cases found : table.find? (·.1.isPrefixOf (c :: rest)) with
  | none => rfl
  | some code => exact absurd (h.eq_of_find? found).1 hc

/-- Up to an ampersand nothing is decoded. -/
theorem decodePass_append (h : Sequential table) (hname : '&' ∉ name) (rest : List Char) :
    decodePass table (name ++ rest) = name ++ decodePass table rest := by
  induction name with
  | nil => rfl
  | cons c name ih =>
    rw [List.mem_cons, not_or] at hname
    rw [List.cons_append, h.decodePass_cons_of_ne (Ne.symm hname.1), ih hname.2, List.cons_append]

/-- What has neither an ampersand nor a decoded character is at the start of the decoded text just
if it is at the start of the text. -/
theorem prefix_decodePass_iff (h : Sequential table) (hname : '&' ∉ name)
    (fresh : ∀ code ∈ table, code.2 ∉ name) : name <+: decodePass table cs ↔ name <+: cs := by
  induction name generalizing cs with
  | nil => simp
  | cons d name ih =>
    rw [List.mem_cons, not_or] at hname
    cases cs with
    | nil => rw [decodePass]
    | cons c rest =>
      rw [decodePass]
      cases found : table.find? (·.1.isPrefixOf (c :: rest)) with
      | none =>
        rw [List.cons_prefix_cons, List.cons_prefix_cons, ih hname.2 fun code hc =>
          fun mem => fresh code hc (List.mem_cons_of_mem _ mem)]
      | some code =>
        obtain ⟨rfl, mem, -⟩ := h.eq_of_find? found
        refine iff_of_false (fun starts => ?_) fun starts => ?_
        · exact fresh code mem ((List.cons_prefix_cons.mp starts).1 ▸ List.mem_cons_self)
        · exact hname.1 (List.cons_prefix_cons.mp starts).1.symm

theorem prefix_append_ampersand_iff (hname : '&' ∉ name) (after : List Char) :
    name <+: cs ++ '&' :: after ↔ name <+: cs := by
  induction name generalizing cs with
  | nil => simp
  | cons d name ih =>
    rw [List.mem_cons, not_or] at hname
    cases cs with
    | nil => simp [List.cons_prefix_cons, Ne.symm hname.1]
    | cons c rest => rw [List.cons_append, List.cons_prefix_cons, List.cons_prefix_cons, ih hname.2]

/-- No code goes on behind the next ampersand. -/
theorem find?_append_ampersand (h : Sequential table) (c : Char) (rest after : List Char) :
    table.find? (·.1.isPrefixOf (c :: (rest ++ '&' :: after))) =
      table.find? (·.1.isPrefixOf (c :: rest)) := by
  rw [← List.head?_filter, ← List.head?_filter]
  refine congrArg List.head? (List.filter_congr fun code hc => ?_)
  obtain ⟨name, eq, single⟩ := h.exists_cons hc
  rw [Bool.eq_iff_iff, List.isPrefixOf_iff_prefix, List.isPrefixOf_iff_prefix, eq,
    List.cons_prefix_cons, List.cons_prefix_cons, prefix_append_ampersand_iff single]

/-- What is before an ampersand is decoded on its own. -/
theorem decodePass_append_ampersand (h : Sequential table) (before after : List Char) :
    decodePass table (before ++ '&' :: after) =
      decodePass table before ++ decodePass table ('&' :: after) := by
  fun_induction decodePass table before with
  | case1 => rfl
  | case2 c rest code found ih =>
    have starts : code.1 <+: c :: rest := by simpa using List.find?_some found
    have within := starts.length_le
    rw [List.cons_append, decodePass, h.find?_append_ampersand, found]
    rw [List.length_cons] at within
    simp only
    rw [List.drop_append_of_le_length (by omega), ih, List.cons_append]
  | case3 c rest missing ih =>
    rw [List.cons_append, decodePass, h.find?_append_ampersand, missing]
    simp only
    rw [ih, List.cons_append]

end Sequential

/-- One more kind of code decoded in the whole text behind a pass is one more code in the pass. -/
theorem replaceAll_decodePass (h : Sequential (table ++ [code])) (cs : List Char) :
    replaceAll code.1 [code.2] (decodePass table cs) = decodePass (table ++ [code]) cs := by
  obtain ⟨front, fresh⟩ := h.of_concat
  obtain ⟨name, eq, single⟩ := h.exists_cons (List.mem_append_right _ (List.mem_singleton.mpr rfl))
  have fresh_name : ∀ first ∈ table, first.2 ∉ name := fun first hf mem =>
    fresh first hf (eq ▸ List.mem_cons_of_mem _ mem)
  have some_char : code.1 ≠ [] := by simp [eq]
  fun_induction decodePass (table ++ [code]) cs with
  | case1 => rw [decodePass, replaceAll_nil]
  | case2 c rest entity found ih =>
    rw [List.find?_append, Option.or_eq_some_iff] at found
    rw [← ih, decodePass]
    obtain found | ⟨missing, found⟩ := found
    · -- The character that an earlier code has become starts no code.
      rw [found]
      refine replaceAll_cons (fun starts => ?_) _
      rw [eq, List.cons_prefix_cons] at starts
      refine fresh entity (List.mem_of_find?_eq_some found) ?_
      rw [eq, ← starts.1]
      exact List.mem_cons_self
    · obtain ⟨starts, rfl⟩ : code.1 <+: c :: rest ∧ code = entity := by simpa using found
      rw [eq, List.cons_prefix_cons] at starts
      obtain ⟨rfl, more, rfl⟩ := starts
      have whole : '&' :: (name ++ decodePass table more) = code.1 ++ decodePass table more := by
        rw [eq, List.cons_append]
      simp only [missing]
      rw [front.decodePass_append single, whole, replaceAll_append some_char, eq]
      simp
  | case3 c rest missing ih =>
    rw [List.find?_append, Option.or_eq_none_iff] at missing
    have not_code : ¬code.1 <+: c :: rest := by simpa using missing.2
    rw [← ih, decodePass, missing.1]
    refine replaceAll_cons (fun starts => not_code ?_) _
    rw [eq, List.cons_prefix_cons] at starts ⊢
    exact ⟨starts.1, (front.prefix_decodePass_iff single fresh_name).mp starts.2⟩

theorem decodePass_nil (cs : List Char) : decodePass [] cs = cs := by
  induction cs with
  | nil => rw [decodePass]
  | cons c rest ih =>
    rw [decodePass]
    exact congrArg (c :: ·) ih

/-- Codes decoded one after the other in the whole text are decoded in one pass. -/
theorem foldl_replaceAll_eq_decodePass (h : Sequential table) (cs : List Char) :
    table.foldl (fun text code => replaceAll code.1 [code.2] text) cs = decodePass table cs := by
  induction table using List.reverseRecOn with
  | nil => exact (decodePass_nil cs).symm
  | append_singleton table code ih =>
    rw [List.foldl_concat, ih h.of_concat.1, replaceAll_decodePass h]

/-! ### The five entities -/

theorem decodePass_code {rest : List Char} (h : Sequential table)
    (found : table.find? (·.1.isPrefixOf (code.1 ++ rest)) = some code) :
    decodePass table (code.1 ++ rest) = code.2 :: decodePass table rest := by
  obtain ⟨name, eq, -⟩ := h.exists_cons (List.mem_of_find?_eq_some found)
  rw [eq, List.cons_append] at found ⊢
  rw [decodePass, found]
  simp [eq]

theorem decodePass_entities (cs : List Char) : decodePass entities cs = decodeOnce cs := by
  have code (i : Fin 5) (rest : List Char) :
      decodePass entities ((entities.get i).1 ++ rest) =
        (entities.get i).2 :: decodePass entities rest := by
    refine decodePass_code sequential_entities ?_
    match i with
    | 0 => rfl
    | 1 => rfl
    | 2 => rfl
    | 3 => rfl
    | 4 => rfl
  fun_induction decodeOnce cs with
  | case1 rest ih => rw [← ih]; exact code 0 rest
  | case2 rest ih => rw [← ih]; exact code 1 rest
  | case3 rest ih => rw [← ih]; exact code 2 rest
  | case4 rest ih => rw [← ih]; exact code 3 rest
  | case5 rest ih => rw [← ih]; exact code 4 rest
  | case6 c rest lt gt quot apos amp ih =>
    rw [decodePass, ← ih]
    have missing : entities.find? (·.1.isPrefixOf (c :: rest)) = none := by
      rw [List.find?_eq_none]
      intro entity he found
      obtain ⟨more, eq⟩ := List.isPrefixOf_iff_prefix.mp found
      simp only [entities, List.mem_cons, List.not_mem_nil, or_false] at he
      rcases he with rfl | rfl | rfl | rfl | rfl <;> obtain ⟨rfl, rfl⟩ := List.cons_eq_cons.mp eq
      · exact lt more rfl rfl
      · exact gt more rfl rfl
      · exact quot more rfl rfl
      · exact apos more rfl rfl
      · exact amp more rfl rfl
    rw [missing]
  | case7 => rw [decodePass]

theorem decodeEntities_eq_decodeOnce (cs : List Char) : decodeEntities cs = decodeOnce cs :=
  (foldl_replaceAll_eq_decodePass sequential_entities cs).trans (decodePass_entities cs)

theorem decodeOnce_append {name : List Char} (h : '&' ∉ name) (rest : List Char) :
    decodeOnce (name ++ rest) = name ++ decodeOnce rest := by
  rw [← decodePass_entities, sequential_entities.decodePass_append h, decodePass_entities]

theorem decodeOnce_append_ampersand (before after : List Char) :
    decodeOnce (before ++ '&' :: after) = decodeOnce before ++ decodeOnce ('&' :: after) := by
  rw [← decodePass_entities, sequential_entities.decodePass_append_ampersand, decodePass_entities,
    decodePass_entities]

/-- Without tags the lines of a plain text are those of the text in which each entity is decoded
once. An ampersand that an entity stands for starts no other. -/
theorem stripTags_decodes {markup : String} (untagged : '<' ∉ markup.toList) :
    (stripTags markup).toList = ['\n'].intercalate
        ((((decodeOnce markup.toList).splitOn '\n').map trim).filter (· ≠ [])) ∧
      ∀ before name after, markup.toList = before ++ ("&amp;".toList ++ name) ++ after →
        '&' ∉ name →
        decodeOnce markup.toList = decodeOnce before ++ ('&' :: name) ++ decodeOnce after := by
  refine ⟨?_, fun before name after eq hname => ?_⟩
  · rw [stripTags, String.toList_ofList, plainText, breakBlocks_of_not_mem untagged,
      dropTags_of_not_mem untagged, decodeEntities_eq_decodeOnce, trimmedLines]
  · have escaped : decodeOnce ('&' :: ("amp;".toList ++ (name ++ after))) =
        '&' :: decodeOnce (name ++ after) := rfl
    have place : markup.toList = before ++ '&' :: ("amp;".toList ++ (name ++ after)) := by
      rw [eq, List.append_assoc, List.append_assoc]
      rfl
    rw [place, decodeOnce_append_ampersand, escaped, decodeOnce_append hname, List.append_assoc,
      List.cons_append]

/-- An escaped entity and an escaped ampersand are there as text. -/
theorem stripTags_decodes_escaped :
    let markup := " &amp;lt;b&gt; &amp;amp;\n&#39; "
    '<' ∉ markup.toList ∧ decodeOnce markup.toList = " &lt;b> &amp;\n' ".toList ∧
      (stripTags markup).toList = "&lt;b> &amp;\n'".toList ∧
      decodeOnce markup.toList = decodeOnce " ".toList ++ "&lt;".toList ++
        decodeOnce "b&gt; &amp;amp;\n&#39; ".toList := by
  have untagged : '<' ∉ " &amp;lt;b&gt; &amp;amp;\n&#39; ".toList := by decide
  have decoded :
      decodeOnce " &amp;lt;b&gt; &amp;amp;\n&#39; ".toList = " &lt;b> &amp;\n' ".toList := by
    decide
  obtain ⟨lines, escaped⟩ := stripTags_decodes untagged
  refine ⟨untagged, decoded, ?_, ?_⟩
  · rw [lines, decoded]
    decide
  · exact escaped " ".toList "lt;".toList "b&gt; &amp;amp;\n&#39; ".toList (by decide) (by decide)

end ResourceStubs.Doc
