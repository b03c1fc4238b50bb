import Mathlib.Data.Char
import Mathlib.Data.List.Lex
import Mathlib.Order.Lattice

/-!
# The order of texts and of their bytes

Texts are compared character by character, and their UTF-8 bytes in turn give the same
order.  The bytes of two characters part at a place that both reach, and the lower
character has the lower byte there, so that no byte that follows can matter.
-/

namespace ConferenceFocus

/-- The UTF-8 bytes of a text. -/
def utf8 (text : String) : List Nat :=
  text.toUTF8.data.toList.map (·.toNat)

/-- The UTF-8 bytes of a character. -/
def encoded (character : Char) : List Nat :=
  let code := character.toNat
  if code ≤ 0x7f then [code]
  else if code ≤ 0x7ff then [0xc0 + code / 64, 0x80 + code % 64]
  else if code ≤ 0xffff then
    [0xe0 + code / 4096, 0x80 + code / 64 % 64, 0x80 + code % 64]
  else
    [0xf0 + code / 262144, 0x80 + code / 4096 % 64, 0x80 + code / 64 % 64, 0x80 + code % 64]

theorem toNat_lt (character : Char) : character.toNat < 0x110000 := by
  rcases character.valid with low | high
  · exact Nat.lt_trans low (by decide)
  · exact high.2

theorem map_utf8EncodeChar (character : Char) :
    (String.utf8EncodeChar character).map (·.toNat) = encoded character := by
  have bounded := toNat_lt character
  have sameCode : character.val.toNat = character.toNat := rfl
  simp only [String.utf8EncodeChar, encoded, sameCode]
  -- Below the bound nothing is cut off when the numbers become bytes.
  generalize character.toNat = code at bounded
  split
  · simp
    omega
  · split
    · simp
      omega
    · split
      · simp
        omega
      · simp
        omega

theorem utf8_eq (text : String) : utf8 text = text.toList.flatMap encoded := by
  rw [utf8, String.toUTF8_eq_toByteArray, ← String.utf8Encode_toList, List.utf8Encode,
    List.toList_data_toByteArray, List.map_flatMap]
  exact congrArg text.toList.flatMap (funext map_utf8EncodeChar)

theorem encoded_ne_nil (character : Char) : encoded character ≠ [] := by
  unfold encoded
  dsimp only
  split_ifs <;> simp

/-- The lower of two characters has the lower bytes, whatever follows either. -/
theorem encoded_append_lt {left right : Char} (lower : left < right)
    (leftRest rightRest : List Nat) : encoded left ++ leftRest < encoded right ++ rightRest := by
  have bounded := toNat_lt right
  have less : left.toNat < right.toNat := lower
  unfold encoded
  generalize left.toNat = leftCode at less
  generalize right.toNat = rightCode at less bounded
  dsimp only
  -- The first byte tells the length, and among encodings of one length the bytes are
  -- digits of the codes.
  split_ifs <;> simp only [List.cons_append, List.nil_append, List.cons_lt_cons_iff] <;> omega

theorem flatMap_encoded_lt {left right : List Char} (lower : left < right) :
    left.flatMap encoded < right.flatMap encoded := by
  induction lower with
  | @nil character rest =>
      obtain ⟨first, others, starts⟩ := List.exists_cons_of_ne_nil (encoded_ne_nil character)
      rw [List.flatMap_cons, starts]
      exact .nil
  | cons later ih =>
      rw [List.flatMap_cons, List.flatMap_cons]
      exact List.append_left_lt ih
  | rel lower =>
      rw [List.flatMap_cons, List.flatMap_cons]
      exact encoded_append_lt lower _ _

theorem strictMono_flatMap_encoded :
    StrictMono fun characters : List Char => characters.flatMap encoded :=
  fun _ _ lower => flatMap_encoded_lt lower

/-- Bytes are in the order of the texts they encode. -/
theorem utf8_lt_iff {left right : String} : utf8 left < utf8 right ↔ left < right := by
  rw [utf8_eq, utf8_eq, String.lt_iff]
  exact strictMono_flatMap_encoded.lt_iff_lt

theorem utf8_injective : Function.Injective utf8 := by
  intro left right same
  rw [utf8_eq, utf8_eq] at same
  exact String.toList_inj.mp (strictMono_flatMap_encoded.injective same)

end ConferenceFocus
