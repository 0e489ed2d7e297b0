import BinaryRecords.Text.Utf8
import Mathlib.Tactic.Common

/-!
# Text in bytes that are UTF-8

The bytes of a text are read back as that text, both by the strict reading and by the machine
that stands in for malformed pieces.
-/

namespace BinaryRecords

namespace Text

namespace Utf8

theorem decode?_encode (text : String) : decode? (encode text) = some text := by
  have isValid : (⟨text.toByteArray.data.toList.toArray⟩ : ByteArray).IsValidUTF8 :=
    text.isValidUTF8
  rw [decode?, encode, String.fromUTF8?, dif_pos isValid]
  rfl

theorem decode?_eq_some_iff {bytes : List UInt8} {text : String} :
    decode? bytes = some text ↔ bytes = encode text := by
  constructor
  · intro decoded
    rw [decode?, String.fromUTF8?] at decoded
    split at decoded
    · cases decoded
      rfl
    · cases decoded
  · rintro rfl
    exact decode?_encode text

/-- The bytes of a text are those of its characters, one after the other. -/
theorem encode_eq_flatMap (text : String) :
    encode text = text.toList.flatMap String.utf8EncodeChar := by
  rw [encode]
  conv_lhs => rw [← String.ofList_toList (s := text)]
  rw [String.toByteArray_ofList, List.utf8Encode, List.data_toByteArray, List.toList_toArray]

theorem first_of_two {value : Nat} (above : 0x7F < value) (atMost : value ≤ 0x7FF) :
    first (value / 64 % 32 + 192) = .lead ⟨value / 64, 1, 0x80, 0xBF⟩ := by
  have lead : value / 64 % 32 + 192 - 0xC0 = value / 64 := by omega
  rw [first, if_neg (by omega), if_neg (by omega), if_pos (by omega), lead]

/-- The bounds of the second byte are such that no surrogate is read. -/
theorem first_of_three {value : Nat} (above : 0x7FF < value) (atMost : value ≤ 0xFFFF)
    (notSurrogate : value < 0xD800 ∨ 0xDFFF < value) :
    ∃ low high, first (value / 4096 % 16 + 224) = .lead ⟨value / 4096, 2, low, high⟩ ∧
      low ≤ value / 64 % 64 + 128 ∧ value / 64 % 64 + 128 ≤ high := by
  have lead : value / 4096 % 16 + 224 - 0xE0 = value / 4096 := by omega
  rw [first, if_neg (by omega), if_neg (by omega), if_neg (by omega)]
  by_cases isFirst : value / 4096 = 0
  · rw [if_pos (by omega), isFirst]
    exact ⟨0xA0, 0xBF, rfl, by omega, by omega⟩
  · rw [if_neg (by omega)]
    by_cases isThirteenth : value / 4096 = 0xD
    · rw [if_pos (by omega), isThirteenth]
      exact ⟨0x80, 0x9F, rfl, by omega, by omega⟩
    · rw [if_neg (by omega), if_pos (by omega), lead]
      exact ⟨0x80, 0xBF, rfl, by omega, by omega⟩

theorem first_of_four {value : Nat} (above : 0xFFFF < value) (atMost : value ≤ 0x10FFFF) :
    ∃ low high, first (value / 262144 % 8 + 240) = .lead ⟨value / 262144, 3, low, high⟩ ∧
      low ≤ value / 4096 % 64 + 128 ∧ value / 4096 % 64 + 128 ≤ high := by
  have lead : value / 262144 % 8 + 240 - 0xF0 = value / 262144 := by omega
  rw [first, if_neg (by omega), if_neg (by omega), if_neg (by omega), if_neg (by omega),
    if_neg (by omega), if_neg (by omega)]
  by_cases isFirst : value / 262144 = 0
  · rw [if_pos (by omega), isFirst]
    exact ⟨0x90, 0xBF, rfl, by omega, by omega⟩
  · rw [if_neg (by omega)]
    by_cases isFourth : value / 262144 = 4
    · rw [if_neg (by omega), if_pos (by omega), isFourth]
      exact ⟨0x80, 0x8F, rfl, by omega, by omega⟩
    · rw [if_pos (by omega), lead]
      exact ⟨0x80, 0xBF, rfl, by omega, by omega⟩

section

variable {piecesReverse : List (Option Char)} {value low high byte : Nat}

theorem step_lead {begun : Begun} (isLead : first byte = .lead begun) :
    step ⟨piecesReverse, none⟩ byte = ⟨piecesReverse, some begun⟩ := by
  simp only [step, startWith, isLead]

theorem step_last (atLeast : low ≤ byte) (atMost : byte ≤ high) :
    step ⟨piecesReverse, some ⟨value, 1, low, high⟩⟩ byte =
      ⟨some (Char.ofNat (value * 64 + byte % 64)) :: piecesReverse, none⟩ := by
  simp only [step, if_pos (And.intro atLeast atMost), Nat.le_refl, if_true]

theorem step_inside {missing : Nat} (atLeast : low ≤ byte) (atMost : byte ≤ high) :
    step ⟨piecesReverse, some ⟨value, missing + 2, low, high⟩⟩ byte =
      ⟨piecesReverse, some ⟨value * 64 + byte % 64, missing + 1, 0x80, 0xBF⟩⟩ := by
  rw [step]
  simp [atLeast, atMost]

end

/-- The bytes of a character are read as this character.  There are as many of them as its value
needs, and all but the first one add six bits. -/
theorem foldl_step_utf8EncodeChar (piecesReverse : List (Option Char)) (character : Char) :
    (String.utf8EncodeChar character).foldl (fun progress byte => step progress byte.toNat)
      ⟨piecesReverse, none⟩ = ⟨some character :: piecesReverse, none⟩ := by
  obtain ⟨value, value_eq⟩ : ∃ value, value = character.toNat := ⟨_, rfl⟩
  have isValid : value < 0xD800 ∨ 0xDFFF < value ∧ value < 0x110000 := value_eq ▸ character.valid
  have isCharacter : some character = some (Char.ofNat value) := by rw [value_eq, Char.ofNat_toNat]
  rw [String.utf8EncodeChar, show character.val.toNat = value from value_eq.symm, isCharacter]
  split
  · have only : first value = .ascii value := by rw [first, if_pos (by omega)]
    simp (disch := change _ < 256; omega) only [List.foldl_cons, List.foldl_nil,
      UInt8.toNat_ofNat_of_lt']
    simp only [step, startWith, only]
  split
  · have joined : value / 64 * 64 + (value % 64 + 128) % 64 = value := by omega
    simp (disch := change _ < 256; omega) only [List.foldl_cons, List.foldl_nil,
      UInt8.toNat_ofNat_of_lt']
    rw [step_lead (first_of_two (by omega) (by omega)), step_last (by omega) (by omega), joined]
  split
  · obtain ⟨low, high, lead, atLeast, atMost⟩ := @first_of_three value (by omega) (by omega)
      (by omega)
    have joined : (value / 4096 * 64 + (value / 64 % 64 + 128) % 64) * 64 +
        (value % 64 + 128) % 64 = value := by omega
    simp (disch := change _ < 256; omega) only [List.foldl_cons, List.foldl_nil,
      UInt8.toNat_ofNat_of_lt']
    rw [step_lead lead, step_inside atLeast atMost, step_last (by omega) (by omega), joined]
  · obtain ⟨low, high, lead, atLeast, atMost⟩ := @first_of_four value (by omega) (by omega)
    have joined : ((value / 262144 * 64 + (value / 4096 % 64 + 128) % 64) * 64 +
        (value / 64 % 64 + 128) % 64) * 64 + (value % 64 + 128) % 64 = value := by omega
    simp (disch := change _ < 256; omega) only [List.foldl_cons, List.foldl_nil,
      UInt8.toNat_ofNat_of_lt']
    rw [step_lead lead, step_inside atLeast atMost, step_inside (by omega) (by omega),
      step_last (by omega) (by omega), joined]

theorem foldl_step_flatMap (piecesReverse : List (Option Char)) (characters : List Char) :
    (characters.flatMap String.utf8EncodeChar).foldl
      (fun progress byte => step progress byte.toNat) ⟨piecesReverse, none⟩ =
        ⟨(characters.map some).reverse ++ piecesReverse, none⟩ := by
  induction characters generalizing piecesReverse with
  | nil => rfl
  | cons character characters induction =>
      rw [List.flatMap_cons, List.foldl_append, foldl_step_utf8EncodeChar, induction]
      simp

/-- Nothing in the bytes of a text is malformed. -/
theorem decodeLossy_encode (text : String) : decodeLossy (encode text) = text.toList := by
  rw [encode_eq_flatMap, decodeLossy, pieces, foldl_step_flatMap]
  simp [Function.comp_def]

end Utf8

end Text

end BinaryRecords
