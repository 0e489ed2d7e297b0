import BinaryRecords.Text.Words
import Mathlib.Tactic.Common

/-!
# Numerals of numbers

The numeral of a number is read back as that number, in every base up to sixteen and with its
letters in either case.
-/

namespace BinaryRecords

namespace Text

/-- Whether a text is the numeral of a number, with letters in either case. -/
def IsNumeral (base : Nat) (text : List Char) (number : Nat) : Prop :=
  text.map Char.toLower = Nat.toDigits base number

theorem digitValue?_digitChar {digit : Nat} (isDigit : digit < 16) :
    digitValue? digit.digitChar = some digit := by
  have all : ∀ digit < 16, digitValue? (Nat.digitChar digit) = some digit := by decide
  exact all digit isDigit

theorem appendDigit?_digitChar {base : Nat} (number : Nat) {digit : Nat} (atMost : base ≤ 16)
    (isDigit : digit < base) :
    appendDigit? base number digit.digitChar = some (base * number + digit) := by
  simp only [appendDigit?, digitValue?_digitChar (Nat.lt_of_lt_of_le isDigit atMost),
    if_pos isDigit]

theorem foldlM_appendDigit?_toDigits {base : Nat} (atLeast : 1 < base) (atMost : base ≤ 16)
    (number : Nat) : (Nat.toDigits base number).foldlM (appendDigit? base) 0 = some number := by
  induction number using Nat.strongRecOn with
  | ind number induction =>
      rw [Nat.toDigits_eq_if atLeast]
      split
      · rename_i isDigit
        simp [appendDigit?_digitChar 0 atMost isDigit]
      · rename_i notDigit
        have shorter : number / base < number := Nat.div_lt_self (by omega) atLeast
        have lastDigit : number % base < base := Nat.mod_lt _ (by omega)
        rw [List.foldlM_append, induction _ shorter]
        simp [appendDigit?_digitChar (number / base) atMost lastDigit, Nat.div_add_mod]

theorem numeral?_toDigits {base : Nat} (atLeast : 1 < base) (atMost : base ≤ 16) (number : Nat) :
    numeral? base (Nat.toDigits base number) = some number := by
  rw [numeral?, if_neg Nat.toDigits_ne_nil, foldlM_appendDigit?_toDigits atLeast atMost]

/-- The numeral of a number of 64 bits has that number as its value. -/
theorem word?_toDigits {base : Nat} (atLeast : 1 < base) (atMost : base ≤ 16) (number : UInt64) :
    word? base (Nat.toDigits base number.toNat) = some number := by
  simp only [word?, numeral?_toDigits atLeast atMost, if_pos number.toNat_lt, UInt64.ofNat_toNat]

theorem toDigits_inj {base : Nat} (atLeast : 1 < base) (atMost : base ≤ 16) {number other : Nat}
    (same : Nat.toDigits base number = Nat.toDigits base other) : number = other := by
  have read := numeral?_toDigits atLeast atMost number
  rw [same, numeral?_toDigits atLeast atMost] at read
  exact (Option.some.inj read).symm

theorem exists_digitChar_of_mem_toDigits {base : Nat} (atLeast : 1 < base) {number : Nat}
    {character : Char} (member : character ∈ Nat.toDigits base number) :
    ∃ digit < base, character = digit.digitChar := by
  induction number using Nat.strongRecOn with
  | ind number induction =>
      rw [Nat.toDigits_eq_if atLeast] at member
      split at member
      · rename_i isDigit
        exact ⟨number, isDigit, List.mem_singleton.mp member⟩
      · rename_i notDigit
        rcases List.mem_append.mp member with isBefore | isLast
        · exact induction _ (Nat.div_lt_self (by omega) atLeast) isBefore
        · exact ⟨number % base, Nat.mod_lt _ (by omega), List.mem_singleton.mp isLast⟩

theorem signedDecimal?_toDigits (number : Nat) :
    signedDecimal? (Nat.toDigits 10 number) = some (number : Int) := by
  obtain ⟨first, others, digits_eq⟩ :=
    List.exists_cons_of_ne_nil (Nat.toDigits_ne_nil (b := 10) (n := number))
  have isDigit : first.isDigit = true := by
    apply Nat.isDigit_of_mem_toDigits (b := 10) (n := number) (by decide) (by decide)
    simp [digits_eq]
  have notMinus : first ≠ '-' := by
    rintro rfl
    cases isDigit
  have notPlus : first ≠ '+' := by
    rintro rfl
    cases isDigit
  have read : numeral? 10 (Nat.toDigits 10 number) = some number :=
    numeral?_toDigits (by decide) (by decide) number
  rw [digits_eq] at read ⊢
  simp [signedDecimal?, skipPlus, notMinus, notPlus, read]

theorem eq_minus_or_isDigit_of_mem_toString {number : Int} {character : Char}
    (member : character ∈ (toString number).toList) :
    character = '-' ∨ character.isDigit = true := by
  rw [Int.toString_eq_repr, Int.repr_eq_if] at member
  split at member
  · rw [Nat.toList_repr] at member
    exact .inr (Nat.isDigit_of_mem_toDigits (by decide) (by decide) member)
  · rw [String.toList_append, Nat.toList_repr] at member
    rcases List.mem_append.mp member with isSign | isDigit
    · exact .inl (by simpa using isSign)
    · exact .inr (Nat.isDigit_of_mem_toDigits (by decide) (by decide) isDigit)

/-- The numeral of an integer, with a sign if it is negative, has that integer as its value. -/
theorem signedDecimal?_toString (number : Int) :
    signedDecimal? (toString number).toList = some number := by
  rw [Int.toString_eq_repr, Int.repr_eq_if]
  split
  · have isMagnitude : (number.toNat : Int) = number := by omega
    rw [Nat.toList_repr, signedDecimal?_toDigits, isMagnitude]
  · have isMagnitude : -((-number).toNat : Int) = number := by omega
    rw [String.toList_append, Nat.toList_repr, ← isMagnitude]
    simp [signedDecimal?, numeral?_toDigits]

theorem toList_toString_ne_nil (number : Int) : (toString number).toList ≠ [] := by
  intro isEmpty
  have read := signedDecimal?_toString number
  rw [isEmpty] at read
  cases read

theorem digitValue?_toLower (character : Char) :
    digitValue? character.toLower = digitValue? character := by
  by_cases isAscii : character.toNat < 128
  · have all : ∀ code < 128,
        digitValue? (Char.ofNat code).toLower = digitValue? (Char.ofNat code) := by decide
    rw [← Char.ofNat_toNat character, all _ isAscii]
  · have isLower : character.toLower = character :=
      dif_neg fun isUpper => isAscii (Nat.lt_of_le_of_lt isUpper.2 (by decide))
    rw [isLower]

theorem numeral?_map_toLower (base : Nat) (text : List Char) :
    numeral? base (text.map Char.toLower) = numeral? base text := by
  have append (number : Nat) (character : Char) :
      appendDigit? base number character.toLower = appendDigit? base number character := by
    rw [appendDigit?, digitValue?_toLower, appendDigit?]
  simp only [numeral?, List.map_eq_nil_iff, List.foldlM_map, append]

theorem word?_map_toLower (base : Nat) (text : List Char) :
    word? base (text.map Char.toLower) = word? base text := by
  simp only [word?, numeral?_map_toLower]

/-- The letters of the numeral that a number is written with are in lower case. -/
theorem isNumeral_toDigits {base : Nat} (atLeast : 1 < base) (atMost : base ≤ 16) (number : Nat) :
    IsNumeral base (Nat.toDigits base number) number := by
  have all : ∀ digit < 16, (Nat.digitChar digit).toLower = Nat.digitChar digit := by decide
  refine (List.map_congr_left fun character member => ?_).trans (List.map_id _)
  obtain ⟨digit, isBelow, rfl⟩ := exists_digitChar_of_mem_toDigits atLeast member
  exact all digit (by omega)

namespace IsNumeral

variable {base : Nat} {text : List Char} {number : Nat}

theorem ne_nil (isNumeral : IsNumeral base text number) : text ≠ [] := by
  rintro rfl
  exact Nat.toDigits_ne_nil isNumeral.symm

theorem exists_digitValue? (isNumeral : IsNumeral base text number) (atLeast : 1 < base)
    (atMost : base ≤ 16) {character : Char} (member : character ∈ text) :
    ∃ digit, digitValue? character = some digit := by
  have isDigit : character.toLower ∈ Nat.toDigits base number := by
    rw [← isNumeral]
    exact List.mem_map_of_mem member
  obtain ⟨digit, isBelow, digit_eq⟩ := exists_digitChar_of_mem_toDigits atLeast isDigit
  refine ⟨digit, ?_⟩
  rw [← digitValue?_toLower, digit_eq, digitValue?_digitChar (by omega)]

theorem notMem (isNumeral : IsNumeral base text number) (atLeast : 1 < base) (atMost : base ≤ 16)
    {character : Char} (notDigit : digitValue? character = none) : character ∉ text := by
  intro member
  obtain ⟨digit, isDigit⟩ := isNumeral.exists_digitValue? atLeast atMost member
  rw [notDigit] at isDigit
  cases isDigit

theorem word?_eq {number : UInt64} (isNumeral : IsNumeral base text number.toNat)
    (atLeast : 1 < base) (atMost : base ≤ 16) : word? base text = some number := by
  rw [← word?_map_toLower, isNumeral, word?_toDigits atLeast atMost]

end IsNumeral

end Text

end BinaryRecords
