import Mathlib.Algebra.GroupWithZero.Nat
import Mathlib.Data.List.Chain
import ResourceStubs.Text.Replace

/-! Texts that are joined by one character, and where a text is split and how long it is after a
replacement. -/

namespace ResourceStubs.Text

/-! ### Parts joined by a character -/

theorem length_intercalate (sep : Char) (parts : List (List Char)) :
    ([sep].intercalate parts).length = (parts.map (·.length + 1)).sum - 1 := by
  induction parts with
  | nil => rfl
  | cons part rest ih =>
    cases rest with
    | nil => simp
    | cons next rest =>
      rw [List.intercalate_cons_cons, List.length_append, List.length_append, ih]
      simp
      omega

section Joined

variable {sep : Char} {parts : List (List Char)}

/-- Without the character between them the parts are one after the other. -/
theorem filter_intercalate (free : ∀ part ∈ parts, sep ∉ part) :
    ([sep].intercalate parts).filter (· ≠ sep) = parts.flatten := by
  induction parts with
  | nil => rfl
  | cons part rest ih =>
    have own : part.filter (· ≠ sep) = part :=
      List.filter_eq_self.mpr fun c hc => by
        simpa using fun h : c = sep => free part List.mem_cons_self (h ▸ hc)
    have below := ih fun p hp => free p (List.mem_cons_of_mem _ hp)
    cases rest with
    | nil => simpa using own
    | cons next rest =>
      rw [List.intercalate_cons_cons, List.filter_append, List.filter_append, own, below]
      simp

theorem getLast?_intercalate (some_char : ∀ part ∈ parts, part ≠ []) :
    ([sep].intercalate parts).getLast? = parts.flatten.getLast? := by
  induction parts with
  | nil => rfl
  | cons part rest ih =>
    have below := ih fun p hp => some_char p (List.mem_cons_of_mem _ hp)
    cases rest with
    | nil => simp
    | cons next rest =>
      have : (next :: rest).flatten ≠ [] := by simp [some_char next]
      rw [List.intercalate_cons_cons, List.flatten_cons, List.getLast?_append, below,
        List.getLast?_append_of_ne_nil _ this, List.getLast?_eq_some_getLast this, Option.some_or]

theorem isChain_of_not_mem {cs : List Char} (free : sep ∉ cs) :
    cs.IsChain fun a b => a ≠ sep ∨ b ≠ sep :=
  List.Pairwise.isChain (List.pairwise_iff_forall_sublist.mpr fun sub =>
    .inl fun h => free (h ▸ sub.subset List.mem_cons_self))

/-- The character stands nowhere twice in a row between parts that have none of it. -/
theorem isChain_intercalate (some_char : ∀ part ∈ parts, part ≠ [])
    (free : ∀ part ∈ parts, sep ∉ part) :
    ([sep].intercalate parts).IsChain fun a b => a ≠ sep ∨ b ≠ sep := by
  induction parts with
  | nil => exact .nil
  | cons part rest ih =>
    have own := isChain_of_not_mem (free part List.mem_cons_self)
    have below := ih (fun p hp => some_char p (List.mem_cons_of_mem _ hp))
      (fun p hp => free p (List.mem_cons_of_mem _ hp))
    cases rest with
    | nil => simpa using own
    | cons next rest =>
      rw [List.intercalate_cons_cons, List.append_assoc]
      refine List.isChain_append.mpr ⟨own, ?_, fun a ha b _ => .inl ?_⟩
      · obtain ⟨c, tail, hc⟩ := List.exists_cons_of_ne_nil (some_char next (by simp))
        have ne : c ≠ sep := fun h => free next (by simp) (hc ▸ h ▸ List.mem_cons_self)
        have head : ([sep].intercalate (next :: rest)).head? = some c := by
          cases rest <;> simp [List.intercalate_cons_cons, hc]
        refine List.isChain_append.mpr ⟨.singleton sep, below, fun a _ b hb => .inr ?_⟩
        rw [head] at hb
        exact Option.some.inj hb ▸ ne
      · exact fun h => free part List.mem_cons_self (h ▸ List.mem_of_getLast? ha)

end Joined

theorem not_infix_of_isChain {sep : Char} {cs : List Char}
    (chain : cs.IsChain fun a b => a ≠ sep ∨ b ≠ sep) : ¬[sep, sep] <:+: cs := by
  rintro ⟨before, after, rfl⟩
  have := (List.isChain_append.mp (List.isChain_append.mp chain).1).2.1
  simp at this

/-! ### Splitting and replacing -/

/-- A text in which a character stands nowhere twice in a row, nor at the end, is what is split off
at the first two of it behind the text. -/
theorem splitOnce?_twice_append {sep : Char} {cs : List Char}
    (chain : cs.IsChain fun a b => a ≠ sep ∨ b ≠ sep) (ends : cs.getLast? ≠ some sep)
    (after : List Char) : splitOnce? [sep, sep] (cs ++ sep :: sep :: after) = some (cs, after) := by
  induction cs with
  | nil => simp [splitOnce?, List.isPrefixOf]
  | cons c rest ih =>
    have go_on : [sep, sep].isPrefixOf (c :: (rest ++ sep :: sep :: after)) = false := by
      cases rest with
      | nil =>
        have : sep ≠ c := fun h => ends (by simp [h])
        simp [List.isPrefixOf, this]
      | cons d rest =>
        have := (List.isChain_cons_cons.mp chain).1
        simp [List.isPrefixOf]
        tauto
    have tail := ih chain.tail fun h => ends (by
      rw [List.getLast?_cons, h]
      rfl)
    rw [List.cons_append, splitOnce?, go_on, tail]
    rfl

/-- A text without some character of `old` has no place to replace. -/
theorem replaceAll_of_not_mem {old new cs : List Char} {c : Char} (hc : c ∈ old) (h : c ∉ cs) :
    replaceAll old new cs = cs := by
  fun_induction replaceAll old new cs with
  | case1 => rfl
  | case2 d rest found ih => exact absurd ((List.isPrefixOf_iff_prefix.mp found).subset hc) h
  | case3 d rest missing ih => rw [ih (List.not_mem_of_not_mem_cons h)]

theorem replaceAll_append {old : List Char} (ne : old ≠ []) (new rest : List Char) :
    replaceAll old new (old ++ rest) = new ++ replaceAll old new rest := by
  obtain ⟨c, more, rfl⟩ := List.exists_cons_of_ne_nil ne
  have found : (c :: more).isPrefixOf (c :: (more ++ rest)) = true :=
    List.isPrefixOf_iff_prefix.mpr ⟨rest, rfl⟩
  rw [List.cons_append, replaceAll, if_pos found, List.length_cons, Nat.add_sub_cancel,
    List.drop_left]

theorem replaceAll_cons {old rest : List Char} {c : Char} (h : ¬old <+: c :: rest)
    (new : List Char) : replaceAll old new (c :: rest) = c :: replaceAll old new rest := by
  rw [replaceAll, if_neg (mt List.isPrefixOf_iff_prefix.mp h)]

theorem length_replaceAll_le {old new : List Char} (h : new.length ≤ old.length) (cs : List Char) :
    (replaceAll old new cs).length ≤ cs.length := by
  fun_induction replaceAll old new cs with
  | case1 => simp
  | case2 c rest found ih =>
    have := (List.isPrefixOf_iff_prefix.mp found).length_le
    simp only [List.length_append, List.length_drop, List.length_cons] at *
    omega
  | case3 c rest missing ih => simpa using ih

end ResourceStubs.Text
