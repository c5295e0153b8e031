import Mathlib.Data.List.Lex

/-! The order of texts by their characters and by their bytes in UTF-8. The encoding of a greater
character is greater at the first byte where two encodings differ, so the two orders agree. -/

set_option autoImplicit false

namespace KarelLint.Text

/-- The bytes of a text in UTF-8. -/
def bytes (text : String) : List UInt8 :=
  text.toUTF8.data.toList

/-- The first of two sequences of bytes comes before the second one: it is a proper front of it, or
smaller at the first byte where they differ. -/
def BytesBelow (left right : List UInt8) : Prop :=
  List.Lex (fun first second => first.toNat < second.toNat) left right

theorem bytesBelow_cons_iff {first second : UInt8} {left right : List UInt8} :
    BytesBelow (first :: left) (second :: right) ↔
      first.toNat < second.toNat ∨ first.toNat = second.toNat ∧ BytesBelow left right := by
  rw [UInt8.toNat_inj]
  exact List.cons_lex_cons_iff

theorem bytes_eq_flatMap (text : String) : bytes text = text.toList.flatMap String.utf8EncodeChar := by
  rw [bytes, String.toUTF8_eq_toByteArray, ← String.utf8Encode_toList]
  exact List.toList_data_toByteArray

/-- The first byte tells how many follow, and grows with their number. Encodings of one length differ
first in the first digit to base 64 in which the characters differ. -/
theorem bytesBelow_utf8EncodeChar {c d : Char} (below : c < d) (left right : List UInt8) :
    BytesBelow (String.utf8EncodeChar c ++ left) (String.utf8EncodeChar d ++ right) := by
  have order : c.val.toNat < d.val.toNat := below
  have bound : d.val.toNat < 0x110000 := by
    rcases d.valid with low | high
    · omega
    · exact high.2
  unfold String.utf8EncodeChar
  dsimp only
  generalize c.val.toNat = first at order
  generalize d.val.toNat = second at order bound
  have thirdDigit (point : Nat) : point / 4096 = point / 64 / 64 := by
    rw [Nat.div_div_eq_div_mul]
  have fourthDigit (point : Nat) : point / 262144 = point / 64 / 64 / 64 := by
    rw [Nat.div_div_eq_div_mul, Nat.div_div_eq_div_mul]
  repeat' split
  all_goals
    simp only [List.cons_append, List.nil_append, bytesBelow_cons_iff, UInt8.toNat_ofNat',
      thirdDigit, fourthDigit]
    omega

theorem bytesBelow_of_lex {left right : List Char} (below : List.Lex (· < ·) left right) :
    BytesBelow (left.flatMap String.utf8EncodeChar) (right.flatMap String.utf8EncodeChar) := by
  induction below with
  | @nil c rest =>
      cases encoded : String.utf8EncodeChar c with
      | nil => exact absurd encoded String.utf8EncodeChar_ne_nil
      | cons byte later =>
          rw [List.flatMap_cons, encoded]
          exact .nil
  | rel below => exact bytesBelow_utf8EncodeChar below _ _
  | cons _ ih => exact List.Lex.append_left _ ih _

/-- Texts in ascending order are in ascending order of their bytes. -/
theorem bytesBelow_of_compare {left right : String} (below : compare left right = .lt) :
    BytesBelow (bytes left) (bytes right) := by
  have smaller : left < right := compareOfLessAndEq_eq_lt.mp below
  rw [bytes_eq_flatMap, bytes_eq_flatMap]
  exact bytesBelow_of_lex smaller

end KarelLint.Text
