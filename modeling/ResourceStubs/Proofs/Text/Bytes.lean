import Mathlib.Data.String.Basic
import Mathlib.Data.UInt
import Mathlib.Tactic.SplitIfs

/-! The order of texts. Texts are compared character by character. It is the same to compare the
bytes that encode them: each character is encoded so that its bytes alone settle the comparison with
a greater one. -/

namespace ResourceStubs.Text

/-- The bytes that encode a text. -/
def bytes (text : String) : List UInt8 := text.toList.flatMap String.utf8EncodeChar

theorem toByteArray_bytes (text : String) : (bytes text).toByteArray = text.toUTF8 :=
  String.utf8Encode_toList

/-- Whatever follows, the bytes of a character come before those of a greater one. -/
theorem utf8EncodeChar_append_lt {c d : Char} (h : c < d) (behind behind' : List UInt8) :
    String.utf8EncodeChar c ++ behind < String.utf8EncodeChar d ++ behind' := by
  have hcd : c.val.toNat < d.val.toNat := h
  -- three bits are left for the first of four bytes, and no character needs more
  have hd : d.val.toNat ≤ 0x10ffff := by
    rcases d.valid with hd | hd <;> omega
  simp only [String.utf8EncodeChar]
  generalize c.val.toNat = v at hcd
  generalize d.val.toNat = w at hcd hd
  have hdigits (n : Nat) : n / 4096 = n / 64 / 64 ∧ n / 262144 = n / 64 / 64 / 64 := by omega
  simp only [(hdigits v).1, (hdigits v).2, (hdigits w).1, (hdigits w).2]
  split_ifs <;>
    simp only [List.cons_append, List.nil_append, List.cons_lt_cons_iff, UInt8.lt_iff_toNat_lt,
      UInt8.toNat_ofNat', ← UInt8.toNat_inj] <;>
    omega

theorem flatMap_utf8EncodeChar_lt {cs ds : List Char} (h : cs < ds) :
    cs.flatMap String.utf8EncodeChar < ds.flatMap String.utf8EncodeChar := by
  induction ds generalizing cs with
  | nil => exact (List.not_lt_nil _ h).elim
  | cons d ds ih =>
    rw [List.flatMap_cons]
    cases cs with
    | nil =>
      obtain ⟨byte, further, hd⟩ :=
        List.exists_cons_of_ne_nil (String.utf8EncodeChar_ne_nil (c := d))
      rw [hd]
      exact List.nil_lt_cons _ _
    | cons c cs =>
      rw [List.flatMap_cons]
      rcases List.cons_lt_cons_iff.mp h with hlt | ⟨rfl, hlt⟩
      · exact utf8EncodeChar_append_lt hlt _ _
      · exact List.append_left_lt (ih hlt)

/-- Texts are in the order of their bytes. -/
theorem bytes_lt_iff {a b : String} : bytes a < bytes b ↔ a < b := by
  refine ⟨fun h => ?_, fun h => flatMap_utf8EncodeChar_lt (String.lt_iff.mp h)⟩
  rcases lt_trichotomy a b with hab | rfl | hba
  · exact hab
  · exact (List.lt_irrefl _ h).elim
  · exact (List.lt_asymm h (flatMap_utf8EncodeChar_lt (String.lt_iff.mp hba))).elim

end ResourceStubs.Text
