import Mathlib.Data.String.Basic
import Mathlib.Data.List.Lex
import Mathlib.Data.UInt

/-! # The order of texts by their bytes

Strings are compared character by character. Their encodings in bytes, compared byte by byte, stand
in the same order: the first byte in which two characters differ decides as the characters do, and
no encoding of a character continues another one.
-/

namespace ApiAtlas.Text

/-- The bytes of a text. -/
def bytes (s : String) : List UInt8 :=
  s.toUTF8.data.toList

theorem bytes_eq_flatMap (s : String) : bytes s = s.toList.flatMap String.utf8EncodeChar := by
  rw [bytes, String.toUTF8_eq_toByteArray, ← String.utf8Encode_toList, List.utf8Encode,
    List.toList_data_toByteArray]

private theorem byte_lt_iff {m n : Nat} (hm : m < 256) (hn : n < 256) :
    UInt8.ofNat m < UInt8.ofNat n ↔ m < n := by
  rw [UInt8.lt_iff_toNat_lt, UInt8.toNat_ofNat_of_lt' hm, UInt8.toNat_ofNat_of_lt' hn]

private theorem byte_eq_iff {m n : Nat} (hm : m < 256) (hn : n < 256) :
    UInt8.ofNat m = UInt8.ofNat n ↔ m = n := by
  rw [← UInt8.toNat_inj, UInt8.toNat_ofNat_of_lt' hm, UInt8.toNat_ofNat_of_lt' hn]

private theorem sextet_lt {m n : Nat} (less : m < n) :
    m / 64 < n / 64 ∨ m / 64 = n / 64 ∧ m % 64 < n % 64 := by
  omega

/-- Numbers are compared by their digits to the base 64, the leading ones first. -/
private theorem sextets_lt {m n : Nat} (less : m < n) :
    m / 262144 < n / 262144 ∨ m / 262144 = n / 262144 ∧ (m / 4096 % 64 < n / 4096 % 64 ∨
      m / 4096 % 64 = n / 4096 % 64 ∧ (m / 64 % 64 < n / 64 % 64 ∨
        m / 64 % 64 = n / 64 % 64 ∧ m % 64 < n % 64)) := by
  have split (k : Nat) : k / 4096 = k / 64 / 64 ∧ k / 262144 = k / 64 / 64 / 64 := by omega
  rw [(split m).1, (split n).1, (split m).2, (split n).2]
  rcases sextet_lt less with less | ⟨same, last⟩
  · rcases sextet_lt less with less | ⟨same, last⟩
    · rcases sextet_lt less with less | ⟨same, last⟩
      · exact Or.inl less
      · exact Or.inr ⟨same, Or.inl last⟩
    · rw [same]
      exact Or.inr ⟨rfl, Or.inr ⟨rfl, Or.inl last⟩⟩
  · rw [same]
    exact Or.inr ⟨rfl, Or.inr ⟨rfl, Or.inr ⟨rfl, last⟩⟩⟩

/-- Whatever follows them, the bytes of a smaller character come first. -/
theorem utf8EncodeChar_append_lt {c d : Char} (less : c < d) (s t : List UInt8) :
    String.utf8EncodeChar c ++ s < String.utf8EncodeChar d ++ t := by
  have order : c.val.toNat < d.val.toNat := UInt32.lt_iff_toNat_lt.mp less
  have bound : d.val.toNat < 0x110000 := by
    rcases d.valid with low | ⟨_, high⟩
    · exact low.trans (by decide)
    · exact high
  unfold String.utf8EncodeChar
  generalize c.val.toNat = m at order
  generalize d.val.toNat = n at order bound
  have digits := sextets_lt order
  have left : m / 262144 % 8 = m / 262144 := Nat.mod_eq_of_lt (by omega)
  have right : n / 262144 % 8 = n / 262144 := Nat.mod_eq_of_lt (by omega)
  dsimp only
  split_ifs <;>
    simp (disch := omega) only [List.cons_append, List.nil_append, List.cons_lt_cons_iff, byte_lt_iff,
      byte_eq_iff] <;>
    omega

private theorem flatMap_encode_lt {a b : List Char} (less : a < b) :
    a.flatMap String.utf8EncodeChar < b.flatMap String.utf8EncodeChar := by
  induction less with
  | @nil d rest =>
    rw [List.flatMap_nil, List.flatMap_cons]
    cases encoded : String.utf8EncodeChar d with
    | nil =>
      have size := String.length_utf8EncodeChar d
      have := d.utf8Size_pos
      rw [encoded, List.length_nil] at size
      omega
    | cons byte more => exact List.Lex.nil
  | rel smaller =>
    rw [List.flatMap_cons, List.flatMap_cons]
    exact utf8EncodeChar_append_lt smaller _ _
  | cons _ ih =>
    rw [List.flatMap_cons, List.flatMap_cons]
    exact List.append_left_lt ih

/-- Smaller texts have smaller bytes. -/
theorem bytes_lt_bytes {a b : String} (less : a < b) : bytes a < bytes b := by
  rw [bytes_eq_flatMap, bytes_eq_flatMap]
  exact flatMap_encode_lt (String.lt_iff_toList_lt.mp less)

end ApiAtlas.Text
