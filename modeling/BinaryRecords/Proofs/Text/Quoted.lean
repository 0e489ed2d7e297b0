import BinaryRecords.Proofs.Text.Numeral
import BinaryRecords.Text.Quoted

/-!
# Reading what is quoted

In a quoted text it is seen where each character ends, and the closing quote is the first one
that stands where a character could begin.  So a quoted text determines what is quoted, whatever
follows it.
-/

namespace BinaryRecords

namespace Text

/-- Where characters of a class end is determined by what does not go on with one of them. -/
theorem append_inj_of_class {isInside : Char → Bool} {text other rest others : List Char}
    (inside : ∀ character ∈ text, isInside character = true)
    (otherInside : ∀ character ∈ other, isInside character = true)
    (ends : ∀ character ∈ rest.head?, isInside character = false)
    (otherEnds : ∀ character ∈ others.head?, isInside character = false)
    (same : text ++ rest = other ++ others) : text = other ∧ rest = others := by
  have taken {text rest : List Char} (inside : ∀ character ∈ text, isInside character = true)
      (ends : ∀ character ∈ rest.head?, isInside character = false) :
      (text ++ rest).takeWhile isInside = text := by
    rw [List.takeWhile_append_of_pos inside]
    cases rest with
    | nil => simp
    | cons character rest => simp [ends character rfl]
  have text_eq := congrArg (List.takeWhile isInside) same
  rw [taken inside ends, taken otherInside otherEnds] at text_eq
  subst text_eq
  exact ⟨rfl, List.append_cancel_left same⟩

/-- The character that is written as a backslash and a given character. -/
def ofShortEscape? : Char → Option Char
  | '0' => some '\x00'
  | 't' => some '\t'
  | 'n' => some '\n'
  | 'r' => some '\r'
  | '"' => some '"'
  | '\\' => some '\\'
  | _ => none

/-- The forms in which a character is written in a quoted text. -/
inductive IsEscape (character : Char) : List Char → Prop
  | plain (notQuote : character ≠ '"') (notBackslash : character ≠ '\\') :
      IsEscape character [character]
  | short {name : Char} (isName : ofShortEscape? name = some character) :
      IsEscape character ['\\', name]
  | byNumber : IsEscape character (escapeByNumber character)

theorem isEscape_escape (character : Char) : IsEscape character (escape character) := by
  rw [escape.eq_def]
  split
  · exact .short rfl
  · exact .short rfl
  · exact .short rfl
  · exact .short rfl
  · exact .short rfl
  · exact .short rfl
  · rename_i notQuote notBackslash
    split
    · exact .byNumber
    · exact .plain notQuote notBackslash

/-- The number of a character ends at the closing brace. -/
theorem escapeByNumber_append_inj {character other : Char} {rest others : List Char}
    (same : escapeByNumber character ++ rest = escapeByNumber other ++ others) :
    character = other ∧ rest = others := by
  have isDigit (character : Char) :
      ∀ digit ∈ Nat.toDigits 16 character.toNat, (digit != '\x7d') = true := by
    intro digit member
    obtain ⟨number, isBelow, rfl⟩ := exists_digitChar_of_mem_toDigits (by decide) member
    exact (by decide : ∀ number < 16, (Nat.digitChar number != '\x7d') = true) number isBelow
  simp only [escapeByNumber, List.cons_append, List.append_assoc, List.cons.injEq, true_and] at same
  obtain ⟨digits_eq, rest_eq⟩ := append_inj_of_class (isDigit character) (isDigit other)
    (by simp) (by simp) same
  refine ⟨Char.toNat_inj.mp (toDigits_inj (by decide) (by decide) digits_eq), ?_⟩
  simpa using rest_eq

/-- In a quoted text it is seen where a character ends and which it is. -/
theorem IsEscape.append_inj {character other : Char} {written otherWritten rest others : List Char}
    (isEscape : IsEscape character written) (otherIsEscape : IsEscape other otherWritten)
    (same : written ++ rest = otherWritten ++ others) : character = other ∧ rest = others := by
  rcases isEscape with ⟨notQuote, notBackslash⟩ | @⟨name, isName⟩ | _ <;>
    rcases otherIsEscape with ⟨otherNotQuote, otherNotBackslash⟩ | @⟨otherName, otherIsName⟩ | _
  case byNumber.byNumber => exact escapeByNumber_append_inj same
  all_goals
    simp only [escapeByNumber, List.cons_append, List.nil_append, List.cons.injEq] at same
  case plain.plain => exact same
  case plain.short => exact absurd same.1 notBackslash
  case plain.byNumber => exact absurd same.1 notBackslash
  case short.plain => exact absurd same.1.symm otherNotBackslash
  case byNumber.plain => exact absurd same.1.symm otherNotBackslash
  case short.short =>
    obtain ⟨_, rfl, rest_eq⟩ := same
    exact ⟨Option.some.inj (isName.symm.trans otherIsName), rest_eq⟩
  case short.byNumber =>
    obtain ⟨_, rfl, _⟩ := same
    cases isName
  case byNumber.short =>
    obtain ⟨_, rfl, _⟩ := same
    cases otherIsName

theorem IsEscape.append_ne_quote {character : Char} {written rest others : List Char}
    (isEscape : IsEscape character written) : written ++ rest ≠ '"' :: others := by
  rcases isEscape with ⟨notQuote, _⟩ | _ | _
  · simp [notQuote]
  · simp
  · simp [escapeByNumber]

/-- The closing quote is where the text ends that is quoted. -/
theorem flatMap_escape_append_inj {text other rest others : List Char}
    (same : text.flatMap escape ++ '"' :: rest = other.flatMap escape ++ '"' :: others) :
    text = other ∧ rest = others := by
  induction text generalizing other with
  | nil =>
      cases other with
      | nil => simpa using same
      | cons character other =>
          rw [List.flatMap_cons, List.append_assoc] at same
          exact absurd same.symm (isEscape_escape character).append_ne_quote
  | cons character text induction =>
      cases other with
      | nil =>
          rw [List.flatMap_cons, List.append_assoc] at same
          exact absurd same (isEscape_escape character).append_ne_quote
      | cons otherCharacter other =>
          rw [List.flatMap_cons, List.flatMap_cons, List.append_assoc, List.append_assoc] at same
          obtain ⟨rfl, behind⟩ := (isEscape_escape character).append_inj (isEscape_escape _) same
          obtain ⟨rfl, rfl⟩ := induction behind
          exact ⟨rfl, rfl⟩

theorem quote_append_inj {text other rest others : List Char}
    (same : (quote text).toList ++ rest = (quote other).toList ++ others) :
    text = other ∧ rest = others := by
  simp only [quote, String.toList_ofList, List.cons_append, List.append_assoc, List.nil_append,
    List.cons.injEq, true_and] at same
  exact flatMap_escape_append_inj same

end Text

end BinaryRecords
