import ResourceStubs.Proofs.Text.Joined
import ResourceStubs.Text.CaseMap

/-! Underscores in a text that is put in lower case. They stay where they are and none is added, so
a text in which no two of them meet has none that meet afterwards. An underscore ends a word: what
is behind it does not decide about the form of a sigma before it. -/

namespace ResourceStubs.Text

/-! ### Single characters -/

/-- A property of the ASCII characters that is checked one by one. -/
theorem ascii_forall {P : Char → Prop} (h : ∀ n < 128, P (Char.ofNat n)) {c : Char}
    (hc : c.toNat < 128) : P c := by
  have := h c.toNat hc
  rwa [Char.ofNat_toNat] at this

theorem isUpper_iff {c : Char} : c.isUpper = true ↔ 65 ≤ c.toNat ∧ c.toNat ≤ 90 :=
  decide_eq_true_iff

theorem isLower_iff {c : Char} : c.isLower = true ↔ 97 ≤ c.toNat ∧ c.toNat ≤ 122 :=
  Bool.and_eq_true_iff.trans (and_congr decide_eq_true_iff decide_eq_true_iff)

theorem isDigit_iff {c : Char} : c.isDigit = true ↔ 48 ≤ c.toNat ∧ c.toNat ≤ 57 :=
  Bool.and_eq_true_iff.trans (and_congr decide_eq_true_iff decide_eq_true_iff)

theorem isAlpha_iff {c : Char} : c.isAlpha = true ↔ c.isUpper = true ∨ c.isLower = true :=
  Bool.or_eq_true_iff

theorem toNat_ofNat (n : Nat) : (Char.ofNat n).toNat = n ∨ (Char.ofNat n).toNat = 0 := by
  by_cases valid : n.isValidChar
  · exact .inl (congrArg Char.toNat (dif_pos valid))
  · exact .inr (congrArg Char.toNat (dif_neg valid))

theorem lowerRuns_above : ∀ run ∈ lowerRuns, (0x5f : Int) < run.first + run.shift := by
  decide +kernel

theorem shiftCase_lowerRuns_ne_underscore {c : Char} (hc : c ≠ '_') :
    shiftCase lowerRuns c ≠ '_' := by
  unfold shiftCase
  split
  next run found =>
    have above := lowerRuns_above run (List.mem_of_find?_eq_some found)
    have covers : run.covers c.toNat = true := by simpa using List.find?_some found
    simp only [CaseRun.covers, Bool.and_eq_true, decide_eq_true_eq] at covers
    intro eq
    have shifted : (Char.ofNat (c.toNat + run.shift).toNat).toNat = 0x5f := by rw [eq]; rfl
    rcases toNat_ofNat (c.toNat + run.shift).toNat with h | h <;> omega
  next => exact hc

theorem lowerChar_underscore : lowerChar '_' = ['_'] := by decide

theorem underscore_not_mem_lowerChar {c : Char} (hc : c ≠ '_') : '_' ∉ lowerChar c := by
  unfold lowerChar
  split
  next ascii =>
    have kept := ascii_forall (P := fun c => c ≠ '_' → '_' ∉ [c.toLower]) (by decide +kernel) ascii
    exact kept hc
  next =>
    split
    next => decide
    next => simpa using (shiftCase_lowerRuns_ne_underscore hc).symm

theorem lowerChar_ne_nil (c : Char) : lowerChar c ≠ [] := by
  unfold lowerChar
  split
  next => simp
  next => split <;> simp

/-! ### Texts -/

variable (before : List Char)

theorem lowerAfter_underscore_cons (rest : List Char) :
    lowerAfter before ('_' :: rest) = '_' :: lowerAfter ('_' :: before) rest := by
  rw [lowerAfter, if_neg (by decide), lowerChar_underscore]
  rfl

/-- Any other character becomes some characters, none of them an underscore. -/
theorem exists_lowerAfter_cons {c : Char} (hc : c ≠ '_') (rest : List Char) :
    ∃ lowered ≠ [], '_' ∉ lowered ∧
      lowerAfter before (c :: rest) = lowered ++ lowerAfter (c :: before) rest := by
  rw [lowerAfter]
  refine ⟨_, ?_, ?_, rfl⟩
  · split
    next => simp
    next => exact lowerChar_ne_nil c
  · split
    next => split <;> decide
    next => exact underscore_not_mem_lowerChar hc

theorem head?_lowerAfter_eq_underscore_iff (cs : List Char) :
    (lowerAfter before cs).head? = some '_' ↔ cs.head? = some '_' := by
  cases cs with
  | nil => rfl
  | cons c rest =>
    by_cases hc : c = '_'
    · rw [hc, lowerAfter_underscore_cons]
      rfl
    · obtain ⟨lowered, some_char, free, eq⟩ := exists_lowerAfter_cons before hc rest
      obtain ⟨d, tail, rfl⟩ := List.exists_cons_of_ne_nil some_char
      have hd : d ≠ '_' := fun h => free (h ▸ List.mem_cons_self)
      simp [eq, hc, hd]

/-- No two underscores meet in lower case that did not meet before. -/
theorem isChain_lowerAfter {cs : List Char} (chain : cs.IsChain fun a b => a ≠ '_' ∨ b ≠ '_') :
    (lowerAfter before cs).IsChain fun a b => a ≠ '_' ∨ b ≠ '_' := by
  induction cs generalizing before with
  | nil => exact .nil
  | cons c rest ih =>
    have below := ih (c :: before) chain.tail
    by_cases hc : c = '_'
    · subst hc
      rw [lowerAfter_underscore_cons]
      refine List.isChain_cons.mpr ⟨fun d hd => .inr ?_, below⟩
      rintro rfl
      have met := (head?_lowerAfter_eq_underscore_iff _ rest).mp hd
      have := (List.isChain_cons.mp chain).1 '_' met
      simp at this
    · obtain ⟨lowered, -, free, eq⟩ := exists_lowerAfter_cons before hc rest
      rw [eq]
      exact List.isChain_append.mpr ⟨isChain_of_not_mem free, below, fun a ha b _ =>
        .inl fun h => free (h ▸ List.mem_of_getLast? ha)⟩

theorem meetsCased_append_underscore (cs rest : List Char) :
    meetsCased (cs ++ '_' :: rest) = meetsCased cs := by
  have cased : isCased '_' = false := by decide
  have kept : isCaseIgnorable '_' = false := by decide
  simp only [meetsCased]
  induction cs with
  | nil => simp [kept, cased]
  | cons c cs ih =>
    by_cases hc : isCaseIgnorable c = true
    · rw [List.cons_append, List.dropWhile_cons_of_pos hc, List.dropWhile_cons_of_pos hc, ih]
    · rw [List.cons_append, List.dropWhile_cons_of_neg hc, List.dropWhile_cons_of_neg hc]

/-- Lower case does not see beyond an underscore. -/
theorem lowerAfter_append_underscore (cs rest : List Char) :
    lowerAfter before (cs ++ '_' :: rest) =
      lowerAfter before cs ++ '_' :: lowerAfter ('_' :: (cs.reverse ++ before)) rest := by
  induction cs generalizing before with
  | nil => exact lowerAfter_underscore_cons before rest
  | cons c cs ih =>
    rw [List.cons_append, lowerAfter, lowerAfter, meetsCased_append_underscore, ih]
    simp

theorem lowerAfter_ascii {cs : List Char} (ascii : ∀ c ∈ cs, c.toNat < 128) :
    lowerAfter before cs = cs.map Char.toLower := by
  induction cs generalizing before with
  | nil => rfl
  | cons c cs ih =>
    have hc := ascii c List.mem_cons_self
    have sigma : c ≠ 'Σ' := by
      rintro rfl
      exact absurd hc (by decide)
    rw [lowerAfter, if_neg sigma, lowerChar, if_pos hc, ih _ fun d hd => ascii d (by simp [hd])]
    rfl

end ResourceStubs.Text
