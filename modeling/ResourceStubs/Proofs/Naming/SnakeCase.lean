import ResourceStubs.Naming
import ResourceStubs.Proofs.Text.Lower

/-! Snake case by position. A name is rewritten in three steps, two of which look for matches that
must not overlap. Together they only put underscores into it, and where is told here from the
characters around each place alone: before a final plural acronym, and before a capital that starts
a word. A match of the second step may take a character that the next one would need before its
capital, but then the character is a small letter, and the third step sees the capital behind it. -/

namespace ResourceStubs.Naming

open Text

/-! ### Splitting between neighbours -/

/-- The text with an underscore between two neighbours where `cut` holds of them and of the text
behind them. -/
def splitBetween (cut : Char → Char → List Char → Bool) : List Char → List Char
  | c :: d :: rest =>
    if cut c d rest then c :: '_' :: splitBetween cut (d :: rest)
    else c :: splitBetween cut (d :: rest)
  | short => short

/-- A capital stands behind a small letter or digit. -/
def afterSmall (c d : Char) (_rest : List Char) : Bool := (c.isLower || c.isDigit) && d.isUpper

/-- A capital stands behind a small letter or digit, or else between a small letter and a character
that is no line feed. -/
def startsWord (c d : Char) (rest : List Char) : Bool :=
  d.isUpper && (c.isLower || c.isDigit || rest.head?.any Char.isLower && c ≠ '\n')

theorem not_isUpper_of_isLower {c : Char} (h : c.isLower = true) : c.isUpper = false := by
  rw [← Bool.not_eq_true, isUpper_iff]
  rw [isLower_iff] at h
  omega

theorem not_isLower_or_isDigit_of_isUpper {c : Char} (h : c.isUpper = true) :
    (c.isLower || c.isDigit) = false := by
  rw [← Bool.not_eq_true, Bool.or_eq_true, isLower_iff, isDigit_iff]
  rw [isUpper_iff] at h
  omega

theorem splitAfterSmall_eq (cs : List Char) : splitAfterSmall cs = splitBetween afterSmall cs := by
  fun_induction splitAfterSmall cs with
  | case1 c d rest cut ih =>
    have upper : d.isUpper = true := (Bool.and_eq_true_iff.mp cut).2
    -- the capital is passed over by the search, but nothing is split behind it either
    have skip : splitBetween afterSmall (d :: rest) = d :: splitBetween afterSmall rest := by
      cases rest with
      | nil => rfl
      | cons e rest => simp [splitBetween, afterSmall, not_isLower_or_isDigit_of_isUpper upper]
    rw [splitBetween, if_pos (by simpa [afterSmall] using cut), skip, ih]
  | case2 c d rest cut ih =>
    rw [splitBetween, if_neg (by simpa [afterSmall] using cut), ih]
  | case3 short other =>
    unfold splitBetween
    split
    · exact (other _ _ _ rfl).elim
    · rfl

theorem head?_splitCapitalised (cs : List Char) : (splitCapitalised cs).head? = cs.head? := by
  fun_cases splitCapitalised cs <;> rfl

section Run

variable {cut : Char → Char → List Char → Bool}

theorem splitBetween_cons_of_not_isUpper (hcut : ∀ c d rest, cut c d rest = true → d.isUpper = true)
    {c d : Char} (hd : d.isUpper = false) (rest : List Char) :
    splitBetween cut (c :: d :: rest) = c :: splitBetween cut (d :: rest) := by
  rw [splitBetween, if_neg]
  intro h
  simp [hcut _ _ _ h] at hd

/-- Without capitals behind its first character a text is not split. -/
theorem splitBetween_eq_self (hcut : ∀ c d rest, cut c d rest = true → d.isUpper = true) (c : Char)
    {cs : List Char} (hcs : ∀ d ∈ cs, d.isUpper = false) :
    splitBetween cut (c :: cs) = c :: cs := by
  induction cs generalizing c with
  | nil => rfl
  | cons d cs ih =>
    rw [splitBetween_cons_of_not_isUpper hcut (hcs d List.mem_cons_self),
      ih d fun e he => hcs e (List.mem_cons_of_mem _ he)]

/-- Behind a run of small letters a text is split exactly before a capital. -/
theorem splitBetween_run (hcut : ∀ c d rest, c.isLower = true → cut c d rest = d.isUpper)
    {c : Char} (hc : c.isLower = true) {run : List Char} (hrun : ∀ d ∈ run, d.isLower = true)
    (rest : List Char) :
    splitBetween cut (c :: (run ++ rest)) =
      c :: run ++
        ((if rest.head?.any Char.isUpper then ['_'] else []) ++ splitBetween cut rest) := by
  induction run generalizing c with
  | nil =>
    cases rest with
    | nil => rfl
    | cons d rest =>
      rw [List.nil_append, splitBetween, hcut c d rest hc]
      by_cases hd : d.isUpper = true <;> simp [hd]
  | cons d run ih =>
    have hd := hrun d List.mem_cons_self
    have inside := ih hd fun e he => hrun e (List.mem_cons_of_mem _ he)
    rw [List.cons_append, splitBetween, hcut c d _ hc, not_isUpper_of_isLower hd, if_neg (by simp),
      inside]
    rfl

end Run

theorem isUpper_of_afterSmall (c d : Char) (rest : List Char) (h : afterSmall c d rest = true) :
    d.isUpper = true :=
  (Bool.and_eq_true_iff.mp h).2

theorem isUpper_of_startsWord (c d : Char) (rest : List Char) (h : startsWord c d rest = true) :
    d.isUpper = true :=
  (Bool.and_eq_true_iff.mp h).1

/-- The two searches for capitals together split before every capital that starts a word, and
nowhere else. -/
theorem splitAfterSmall_splitCapitalised (cs : List Char) :
    splitAfterSmall (splitCapitalised cs) = splitBetween startsWord cs := by
  rw [splitAfterSmall_eq]
  fun_induction splitCapitalised cs with
  | case1 c u l rest found ih =>
    obtain ⟨feed, upper, lower⟩ := found
    have small : l.isUpper = false := not_isUpper_of_isLower lower
    have hrun : ∀ d ∈ rest.takeWhile Char.isLower, d.isLower = true :=
      List.all_eq_true.mp List.all_takeWhile
    have cut : startsWord c u (l :: rest) = true := by simp [startsWord, upper, lower, feed]
    have passed : splitBetween afterSmall ('_' :: u :: l :: (rest.takeWhile Char.isLower ++
        splitCapitalised (rest.dropWhile Char.isLower))) =
        '_' :: splitBetween afterSmall (u :: l :: (rest.takeWhile Char.isLower ++
          splitCapitalised (rest.dropWhile Char.isLower))) := by
      rw [splitBetween, if_neg (by simp [afterSmall])]
    rw [splitBetween_cons_of_not_isUpper isUpper_of_afterSmall (by decide), passed,
      splitBetween_cons_of_not_isUpper isUpper_of_afterSmall small,
      splitBetween_run (fun _ _ _ h => by simp [afterSmall, h]) lower hrun,
        head?_splitCapitalised, ih,
      splitBetween, if_pos cut, splitBetween_cons_of_not_isUpper isUpper_of_startsWord small]
    conv_rhs => rw [← List.takeWhile_append_dropWhile (p := Char.isLower) (l := rest)]
    rw [splitBetween_run (fun _ _ _ h => by simp [startsWord, h]) lower hrun]
  | case2 c u l rest missing ih =>
    obtain ⟨tail, htail⟩ : ∃ tail, splitCapitalised (u :: l :: rest) = u :: tail := by
      have := head?_splitCapitalised (u :: l :: rest)
      exact List.head?_eq_some_iff.mp this
    have same : startsWord c u (l :: rest) = afterSmall c u tail := by
      simp [startsWord, afterSmall]
      grind
    rw [htail] at ih ⊢
    rw [splitBetween, splitBetween, same, ih]
  | case3 short other =>
    match short, other with
    | [], _ => rfl
    | [c], _ => rfl
    | [c, d], _ => simp [splitBetween, startsWord, afterSmall, Bool.and_comm]
    | c :: u :: l :: rest, other => exact (other c u l rest rfl).elim

/-- An underscore that only small letters follow is kept, and nothing is split near it. -/
theorem splitBetween_append_underscore (cs : List Char) {small : List Char}
    (hsmall : ∀ d ∈ small, d.isUpper = false) :
    splitBetween startsWord (cs ++ '_' :: small) = splitBetween startsWord cs ++ '_' :: small := by
  induction cs with
  | nil => exact splitBetween_eq_self isUpper_of_startsWord '_' hsmall
  | cons c cs ih =>
    cases cs with
    | nil =>
      rw [List.singleton_append, splitBetween_cons_of_not_isUpper isUpper_of_startsWord (by decide)]
      exact congrArg (c :: ·) ih
    | cons d rest =>
      have same : startsWord c d (rest ++ '_' :: small) = startsWord c d rest := by
        cases rest with
        | nil => simp [startsWord]
        | cons e rest => rfl
      rw [List.cons_append] at ih ⊢
      rw [List.cons_append, splitBetween, splitBetween, same, ih]
      split <;> rfl

/-! ### Places -/

/-- A character, with an underscore before it if its place is one of those. -/
def markPlace (place : Nat → Bool) (entry : Char × Nat) : List Char :=
  if place entry.2 then ['_', entry.1] else [entry.1]

/-- The text with one underscore before each of the places. -/
def insertUnderscores (place : Nat → Bool) (cs : List Char) : List Char :=
  cs.zipIdx.flatMap (markPlace place)

/-- At the place, but not at the start, there is a capital. Before it there is a small letter or a
digit, or behind it a small letter and before it no line feed. -/
def startsWordAt (cs : List Char) (i : Nat) : Bool :=
  0 < i && cs[i]?.any Char.isUpper &&
    (cs[i - 1]?.any (fun c => c.isLower || c.isDigit) ||
      cs[i + 1]?.any Char.isLower && cs[i - 1]?.any (· ≠ '\n'))

theorem startsWordAt_append (before : List Char) (c d : Char) (rest : List Char) :
    startsWordAt (before ++ c :: d :: rest) (before.length + 1) = startsWord c d rest := by
  have next : (before ++ c :: d :: rest)[before.length + 1 + 1]? = rest.head? := by
    rw [List.getElem?_append_right (by omega), List.head?_eq_getElem?]
    simp [Nat.add_assoc]
  rw [startsWordAt, next]
  simp [startsWord]

theorem startsWordAt_of_length_le {cs : List Char} {i : Nat} (h : cs.length ≤ i) :
    startsWordAt cs i = false := by
  simp [startsWordAt, List.getElem?_eq_none h]

theorem flatMap_markPlace_congr {place other : Nat → Bool} {cs : List Char} {start : Nat}
    (h : ∀ i, start ≤ i → i < start + cs.length → place i = other i) :
    (cs.zipIdx start).flatMap (markPlace place) = (cs.zipIdx start).flatMap (markPlace other) := by
  refine List.flatMap_congr fun entry he => ?_
  have := List.le_snd_of_mem_zipIdx he
  have := List.snd_lt_add_of_mem_zipIdx he
  rw [markPlace, markPlace, h entry.2 (by omega) (by omega)]

theorem flatMap_markPlace_false (cs : List Char) (start : Nat) :
    (cs.zipIdx start).flatMap (markPlace fun _ => false) = cs := by
  induction cs generalizing start with
  | nil => rfl
  | cons c cs ih => rw [List.zipIdx_cons, List.flatMap_cons, ih]; rfl

/-- Splitting between neighbours puts the underscores before the places where a word starts. -/
theorem splitBetween_startsWord (cs : List Char) :
    splitBetween startsWord cs = insertUnderscores (startsWordAt cs) cs := by
  cases cs with
  | nil => rfl
  | cons c rest =>
    rw [insertUnderscores, List.zipIdx_cons, List.flatMap_cons, markPlace]
    exact behind [] c rest
where
  /-- The same of all that is behind some character of a text. -/
  behind (before : List Char) (c : Char) (rest : List Char) :
      splitBetween startsWord (c :: rest) =
        c :: (rest.zipIdx (before.length + 1)).flatMap
          (markPlace (startsWordAt (before ++ c :: rest))) := by
    induction rest generalizing before c with
    | nil => rfl
    | cons d rest ih =>
      have tail := ih (before ++ [c]) d
      rw [List.length_append, List.length_singleton, List.append_assoc,
        List.singleton_append] at tail
      rw [splitBetween, tail, List.zipIdx_cons, List.flatMap_cons, markPlace, startsWordAt_append]
      split <;> rfl

theorem filter_flatMap_markPlace (place : Nat → Bool) {cs : List Char} (free : '_' ∉ cs)
    (start : Nat) :
    ((cs.zipIdx start).flatMap (markPlace place)).filter (· ≠ '_') = cs := by
  induction cs generalizing start with
  | nil => rfl
  | cons c cs ih =>
    have hc : c ≠ '_' := fun h => free (h ▸ List.mem_cons_self)
    have below := ih (fun h => free (List.mem_cons_of_mem _ h)) (start + 1)
    rw [List.zipIdx_cons, List.flatMap_cons, List.filter_append, below, markPlace]
    split <;> simp [hc]

theorem isChain_flatMap_markPlace (place : Nat → Bool) {cs : List Char} (free : '_' ∉ cs)
    (start : Nat) :
    ((cs.zipIdx start).flatMap (markPlace place)).IsChain fun a b => a ≠ '_' ∨ b ≠ '_' := by
  induction cs generalizing start with
  | nil => exact .nil
  | cons c cs ih =>
    have hc : c ≠ '_' := fun h => free (h ▸ List.mem_cons_self)
    have below := ih (fun h => free (List.mem_cons_of_mem _ h)) (start + 1)
    have own : (c :: (cs.zipIdx (start + 1)).flatMap (markPlace place)).IsChain
        fun a b => a ≠ '_' ∨ b ≠ '_' := List.isChain_cons.mpr ⟨fun _ _ => .inl hc, below⟩
    rw [List.zipIdx_cons, List.flatMap_cons, markPlace]
    split
    · exact List.isChain_cons_cons.mpr ⟨.inr hc, own⟩
    · exact own

/-! ### The final plural acronym -/

/-- Two or more capitals and a small `s`. -/
def IsPluralAcronym (text : List Char) : Prop :=
  ∃ capitals, text = capitals ++ ['s'] ∧ 2 ≤ capitals.length ∧ ∀ c ∈ capitals, c.isUpper = true

/-- The name is `before` and then the longest plural acronym that it ends in; if it ends in none,
`plural` is empty. -/
structure EndsInPlural (name before plural : List Char) : Prop where
  split : name = before ++ plural
  isPlural : plural = [] ∨ IsPluralAcronym plural
  longest : ∀ ending, ending <:+ name → IsPluralAcronym ending → ending.length ≤ plural.length

/-- A plural acronym at the end of a name has no more capitals than there are before the `s`. -/
theorem IsPluralAcronym.of_suffix {name ending : List Char} (h : IsPluralAcronym ending)
    (suffix : ending <:+ name) : ∃ back, name.reverse = 's' :: back ∧
      2 ≤ (back.takeWhile Char.isUpper).length ∧
      ending.length ≤ (back.takeWhile Char.isUpper).length + 1 := by
  obtain ⟨capitals, rfl, two, upper⟩ := h
  obtain ⟨before, rfl⟩ := suffix
  refine ⟨capitals.reverse ++ before.reverse, by simp, ?_⟩
  rw [List.takeWhile_append_of_pos (by simpa using upper)]
  simp
  omega

theorem endsInPlural_of_pluralAcronym? {name before plural : List Char}
    (h : pluralAcronym? name = some (before, plural)) :
    EndsInPlural name before plural ∧ IsPluralAcronym plural := by
  unfold pluralAcronym? at h
  split at h
  next back reversed =>
    dsimp only at h
    split at h
    next two =>
      obtain ⟨rfl, rfl⟩ := Prod.mk.inj (Option.some.inj h)
      have isPlural : IsPluralAcronym ((back.takeWhile Char.isUpper).reverse ++ ['s']) := by
        refine ⟨_, rfl, by simpa using two, fun c hc => ?_⟩
        exact List.all_eq_true.mp List.all_takeWhile c (List.mem_reverse.mp hc)
      refine ⟨⟨?_, .inr isPlural, fun ending suffix he => ?_⟩, isPlural⟩
      · rw [← List.append_assoc, ← List.reverse_append, List.takeWhile_append_dropWhile,
          ← List.reverse_cons, ← reversed, List.reverse_reverse]
      · obtain ⟨back', reversed', -, le⟩ := he.of_suffix suffix
        obtain ⟨-, rfl⟩ := List.cons.inj (reversed.symm.trans reversed')
        simpa using le
    next => cases h
  next => cases h

theorem endsInPlural_of_pluralAcronym?_eq_none {name : List Char} (h : pluralAcronym? name = none) :
    EndsInPlural name name [] := by
  refine ⟨by simp, .inl rfl, fun ending suffix he => ?_⟩
  obtain ⟨back, reversed, two, -⟩ := he.of_suffix suffix
  simp [pluralAcronym?, reversed, two] at h

theorem EndsInPlural.unique {name before plural before' plural' : List Char}
    (h : EndsInPlural name before plural) (h' : EndsInPlural name before' plural') :
    before' = before ∧ plural' = plural := by
  have le {b p b' p' : List Char} (h : EndsInPlural name b p) (h' : EndsInPlural name b' p') :
      p.length ≤ p'.length := by
    rcases h.isPlural with rfl | isPlural
    · exact Nat.zero_le _
    · exact h'.longest p ⟨b, h.split.symm⟩ isPlural
  exact List.append_inj' (h'.split.symm.trans h.split) (Nat.le_antisymm (le h' h) (le h h'))

/-! ### Snake case -/

/-- The places of a name that get an underscore: where a word starts in what is before the final
plural acronym, and where that begins. -/
def wordPlaces (before plural : List Char) (i : Nat) : Bool :=
  startsWordAt before i || i == before.length && !plural.isEmpty

theorem insertUnderscores_wordPlaces (before plural : List Char) :
    insertUnderscores (wordPlaces before plural) (before ++ plural) =
      splitBetween startsWord before ++ if plural.isEmpty then [] else '_' :: plural := by
  have inside : (before.zipIdx).flatMap (markPlace (wordPlaces before plural)) =
      before.zipIdx.flatMap (markPlace (startsWordAt before)) :=
    flatMap_markPlace_congr fun i _ hi => by
      have : i ≠ before.length := by omega
      simp [wordPlaces, this]
  rw [insertUnderscores, List.zipIdx_append, List.flatMap_append, inside, splitBetween_startsWord,
    insertUnderscores, Nat.zero_add]
  congr 1
  cases plural with
  | nil => rfl
  | cons c plural =>
    have behind : (plural.zipIdx (before.length + 1)).flatMap
        (markPlace (wordPlaces before (c :: plural))) = plural := by
      refine (flatMap_markPlace_congr fun i hi _ => ?_).trans (flatMap_markPlace_false plural _)
      have : i ≠ before.length := by omega
      simp [wordPlaces, this, startsWordAt_of_length_le (show before.length ≤ i by omega)]
    rw [List.zipIdx_cons, List.flatMap_cons, behind, markPlace]
    simp [wordPlaces]

/-- All characters of a plural acronym are ASCII letters, and only the last is not a capital. -/
theorem IsPluralAcronym.letters {plural : List Char} (h : IsPluralAcronym plural) :
    ∀ c ∈ plural, c.isAlpha = true := by
  obtain ⟨capitals, rfl, -, upper⟩ := h
  intro c hc
  rcases List.mem_append.mp hc with hc | hc
  · exact isAlpha_iff.mpr (.inl (upper c hc))
  · rw [List.mem_singleton.mp hc]
    decide

theorem toLower_of_isAlpha {c : Char} (h : c.isAlpha = true) :
    c.toNat < 128 ∧ c.toLower.toNat < 128 ∧ c.toLower.isUpper = false ∧
      c.toLower.toLower = c.toLower := by
  have ascii : c.toNat < 128 := by
    rw [isAlpha_iff, isUpper_iff, isLower_iff] at h
    omega
  refine ⟨ascii, ?_⟩
  exact ascii_forall (P := fun c => c.isAlpha = true → c.toLower.toNat < 128 ∧
    c.toLower.isUpper = false ∧ c.toLower.toLower = c.toLower) (by decide +kernel) ascii h

/-- Behind an underscore it does not matter whether letters are put in lower case before. -/
theorem lowerText_append_underscore_map_toLower (cs : List Char) {letters : List Char}
    (h : ∀ c ∈ letters, c.isAlpha = true) :
    lowerText (cs ++ '_' :: letters.map Char.toLower) = lowerText (cs ++ '_' :: letters) := by
  have ascii : ∀ c ∈ letters, c.toNat < 128 := fun c hc => (toLower_of_isAlpha (h c hc)).1
  have ascii' : ∀ c ∈ letters.map Char.toLower, c.toNat < 128 :=
    List.forall_mem_map.mpr fun c hc => (toLower_of_isAlpha (h c hc)).2.1
  have same : (letters.map Char.toLower).map Char.toLower = letters.map Char.toLower := by
    rw [List.map_map]
    exact List.map_congr_left fun c hc => (toLower_of_isAlpha (h c hc)).2.2.2
  rw [lowerText, lowerText, lowerAfter_append_underscore, lowerAfter_append_underscore,
    lowerAfter_ascii _ ascii, lowerAfter_ascii _ ascii', same]

/-- A name is snake-cased by underscores at the places of its words and then put in lower case. -/
theorem snakeCaseChars_eq {name before plural : List Char} (h : EndsInPlural name before plural) :
    snakeCaseChars name = lowerText (insertUnderscores (wordPlaces before plural) name) := by
  rw [snakeCaseChars, splitAfterSmall_splitCapitalised, splitPluralAcronym]
  cases found : pluralAcronym? name with
  | none =>
    obtain ⟨rfl, rfl⟩ := (endsInPlural_of_pluralAcronym?_eq_none found).unique h
    have places := insertUnderscores_wordPlaces before []
    rw [List.append_nil] at places
    simp [places]
  | some parts =>
    obtain ⟨ends, isPlural⟩ := endsInPlural_of_pluralAcronym? found
    obtain ⟨rfl, rfl⟩ := ends.unique h
    have small : ∀ d ∈ parts.2.map Char.toLower, d.isUpper = false :=
      List.forall_mem_map.mpr fun c hc => (toLower_of_isAlpha (isPlural.letters c hc)).2.2.1
    have some_char : parts.2.isEmpty = false := by
      obtain ⟨capitals, eq, -⟩ := isPlural
      simp [eq]
    conv_rhs => rw [ends.split]
    rw [insertUnderscores_wordPlaces, some_char, if_neg (by simp),
      ← lowerText_append_underscore_map_toLower _ isPlural.letters]
    exact congrArg lowerText (splitBetween_append_underscore _ small)

theorem exists_endsInPlural (name : List Char) :
    ∃ before plural, EndsInPlural name before plural := by
  cases found : pluralAcronym? name with
  | none => exact ⟨_, _, endsInPlural_of_pluralAcronym?_eq_none found⟩
  | some parts => exact ⟨_, _, (endsInPlural_of_pluralAcronym? found).1⟩

/-- A name with an underscore is left as it is. Any other is split in one way before its final
plural acronym. Its snake case has an underscore before each of the places that the split gives, and
is put in lower case. The underscores are all that is added, and no two of them meet. -/
theorem snakeCase_eq_insertUnderscores (name : String) :
    if '_' ∈ name.toList then snakeCase name = name
    else ∃ before plural, EndsInPlural name.toList before plural ∧
      (∀ before' plural', EndsInPlural name.toList before' plural' →
        before' = before ∧ plural' = plural) ∧
      let spaced := insertUnderscores (wordPlaces before plural) name.toList
      (snakeCase name).toList = lowerText spaced ∧
        spaced.filter (· ≠ '_') = name.toList ∧
        ¬['_', '_'] <:+: spaced ∧ ¬['_', '_'] <:+: (snakeCase name).toList := by
  split
  next underscore => exact snakeCase_of_underscore underscore
  next free =>
    obtain ⟨before, plural, ends⟩ := exists_endsInPlural name.toList
    have lowered : (snakeCase name).toList =
        lowerText (insertUnderscores (wordPlaces before plural) name.toList) := by
      rw [snakeCase, if_neg free, String.toList_ofList, snakeCaseChars_eq ends]
    have chain := isChain_flatMap_markPlace (wordPlaces before plural) free 0
    refine ⟨before, plural, ends, fun _ _ => ends.unique, lowered,
      filter_flatMap_markPlace _ free 0, not_infix_of_isChain chain, ?_⟩
    rw [lowered]
    exact not_infix_of_isChain (isChain_lowerAfter [] chain)

end ResourceStubs.Naming
