/-
BreakCheck/Proofs/ByteOrder.lean

The order of texts is the order of their bytes.

Texts are compared by code points, from front to back.  In UTF-8 a greater code point has
greater bytes, for more bytes begin with a greater one and bits are written from the top
(`utf8EncodeChar_lt`); so nothing changes if the bytes are compared instead.
-/
import BreakCheck.Exemptions
import Mathlib.Data.String.Basic
import Mathlib.Tactic.SplitIfs

namespace BreakCheck

/-- The bytes of a text. -/
def bytes (text : String) : List UInt8 := text.toUTF8.data.toList

theorem bytes_eq (text : String) : bytes text = text.toList.flatMap String.utf8EncodeChar := by
  rw [bytes, String.toUTF8_eq_toByteArray, ← String.utf8Encode_toList, List.utf8Encode,
    List.data_toByteArray, List.toList_toArray]

/-- A greater character has greater bytes, whatever stands behind it. -/
theorem utf8EncodeChar_lt {c d : Char} (less : c < d) (front back : List UInt8) :
    String.utf8EncodeChar c ++ front < String.utf8EncodeChar d ++ back := by
  have less : c.val.toNat < d.val.toNat := less
  have valid : d.val.toNat < 0x110000 := by
    have valid := d.valid
    simp only [UInt32.isValidChar, Nat.isValidChar] at valid
    omega
  unfold String.utf8EncodeChar
  dsimp only
  generalize c.val.toNat = m at less
  generalize d.val.toNat = n at less valid
  -- one case for each pair of lengths
  split_ifs
  all_goals
    simp only [List.cons_append, List.nil_append, List.cons_lt_cons_iff,
      UInt8.lt_iff_toNat_lt, ← UInt8.toNat_inj, UInt8.toNat_ofNat']
  -- if both have four bytes, the first difference decides
  pick_goal -1
  · by_cases same : m / 262144 = n / 262144
    · by_cases same' : m / 4096 = n / 4096
      · by_cases same'' : m / 64 = n / 64
        · exact .inr ⟨by omega, .inr ⟨by omega, .inr ⟨by omega, .inl (by omega)⟩⟩⟩
        · exact .inr ⟨by omega, .inr ⟨by omega, .inl (by omega)⟩⟩
      · exact .inr ⟨by omega, .inl (by omega)⟩
    · exact .inl (by omega)
  all_goals omega

/-- Characters that come before others do so in bytes, too. -/
theorem flatMap_utf8EncodeChar_lt {front back : List Char} (less : front < back) :
    front.flatMap String.utf8EncodeChar < back.flatMap String.utf8EncodeChar := by
  induction less with
  | nil =>
    rw [List.flatMap_nil, List.flatMap_cons]
    obtain ⟨byte, rest, same⟩ := List.exists_cons_of_ne_nil String.utf8EncodeChar_ne_nil
    rw [same]
    exact List.nil_lt_cons _ _
  | cons _ ih => exact List.append_left_lt ih
  | rel less => exact utf8EncodeChar_lt less _ _

/-- A text that comes before another one does so in bytes. -/
theorem bytes_lt {a b : String} (less : a < b) : bytes a < bytes b := by
  rw [bytes_eq, bytes_eq]
  exact flatMap_utf8EncodeChar_lt less

/-- **Texts are in order exactly if their bytes are.** -/
theorem textLe_iff_bytes (a b : String) : textLe a b = true ↔ bytes a ≤ bytes b := by
  rw [textLe, decide_eq_true_eq, ← not_lt, ← List.not_lt, not_iff_not]
  constructor
  · exact bytes_lt
  · intro less
    rcases lt_trichotomy a b with reversed | rfl | ordered
    · exact absurd less (List.lt_asymm (bytes_lt reversed))
    · exact absurd less (List.lt_irrefl _)
    · exact ordered

end BreakCheck
