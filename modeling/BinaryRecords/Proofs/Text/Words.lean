import BinaryRecords.Proofs.Layout.Spelling

/-!
# Words of a text

The words of a text are the runs of characters that are not blank, each as long as possible.
They stand in the text in order, with gaps in front of the first one, between any two and behind
the last one, of which only those between two words cannot be empty.
-/

namespace BinaryRecords

namespace Text

open Layout (IsGap isGap_nil)

/-- Whether a text is one word. -/
def IsUnbroken (text : List Char) : Prop :=
  text ≠ [] ∧ ∀ character ∈ text, isBlank character = false

/-- Whether a text begins with a blank, if it goes on at all. -/
def EndsUnbroken (text : List Char) : Prop :=
  ∀ character ∈ text.head?, isBlank character = true

/-- Whether a text has some words, in order, and blanks around them. -/
inductive HasWords : List Char → List (List Char) → Prop
  | gap {gap : List Char} (isGap : IsGap gap) : HasWords gap []
  | word {gap word behind : List Char} {others : List (List Char)} (isGap : IsGap gap)
      (isUnbroken : IsUnbroken word) (ends : EndsUnbroken behind)
      (hasOthers : HasWords behind others) : HasWords (gap ++ (word ++ behind)) (word :: others)

section

variable {text gap word behind begunReverse first second : List Char} {found : List (List Char)}

theorem endsUnbroken_nil : EndsUnbroken [] :=
  nofun

theorem endsUnbroken_cons {character : Char} (blank : isBlank character = true) :
    EndsUnbroken (character :: text) := by
  simpa [EndsUnbroken] using blank

theorem endsUnbroken_append (isGap : IsGap gap) (notEmpty : gap ≠ []) :
    EndsUnbroken (gap ++ text) := by
  obtain ⟨character, others, rfl⟩ := List.exists_cons_of_ne_nil notEmpty
  exact endsUnbroken_cons (isGap character List.mem_cons_self)

theorem endsUnbroken_of_isGap (isGap : IsGap gap) : EndsUnbroken gap :=
  fun character isFirst => isGap character (List.mem_of_mem_head? isFirst)

theorem wordsAfter_cons {character : Char} (notBlank : isBlank character = false) :
    wordsAfter begunReverse (character :: text) = wordsAfter (character :: begunReverse) text := by
  cases begunReverse <;> simp [wordsAfter, notBlank]

theorem wordsAfter_gap (isGap : IsGap gap) :
    wordsAfter [] (gap ++ text) = wordsAfter [] text := by
  induction gap with
  | nil => rfl
  | cons character gap induction =>
      obtain ⟨blank, isGap⟩ := List.forall_mem_cons.mp isGap
      rw [List.cons_append, wordsAfter, if_pos blank]
      exact induction isGap

theorem wordsAfter_unbroken (unbroken : ∀ character ∈ word, isBlank character = false) :
    wordsAfter begunReverse (word ++ text) = wordsAfter (word.reverse ++ begunReverse) text := by
  induction word generalizing begunReverse with
  | nil => rfl
  | cons character word induction =>
      obtain ⟨notBlank, unbroken⟩ := List.forall_mem_cons.mp unbroken
      rw [List.cons_append, wordsAfter_cons notBlank, induction unbroken]
      simp

theorem wordsAfter_ends (notEmpty : begunReverse ≠ []) (ends : EndsUnbroken text) :
    wordsAfter begunReverse text = begunReverse.reverse :: wordsAfter [] text := by
  obtain ⟨latest, others, rfl⟩ := List.exists_cons_of_ne_nil notEmpty
  cases text with
  | nil => rfl
  | cons character text =>
      have blank : isBlank character = true := ends character rfl
      simp only [wordsAfter, blank, if_true]

theorem HasWords.words_eq (hasWords : HasWords text found) : words text = found := by
  induction hasWords with
  | @gap gap isGap =>
      rw [words, ← List.append_nil gap, wordsAfter_gap isGap]
      rfl
  | @word gap word behind others isGap isUnbroken ends _ induction =>
      have notEmpty : word.reverse ++ [] ≠ [] := by simpa using isUnbroken.1
      rw [words, wordsAfter_gap isGap, wordsAfter_unbroken isUnbroken.2,
        wordsAfter_ends notEmpty ends, ← words, induction]
      simp

theorem HasWords.cons_blank {character : Char} (hasWords : HasWords text found)
    (blank : isBlank character = true) : HasWords (character :: text) found := by
  cases hasWords with
  | gap isGap => exact .gap (List.forall_mem_cons.mpr ⟨blank, isGap⟩)
  | word isGap isUnbroken ends hasOthers =>
      exact .word (List.forall_mem_cons.mpr ⟨blank, isGap⟩) isUnbroken ends hasOthers

theorem hasWords_append (unbroken : ∀ character ∈ begunReverse, isBlank character = false)
    (notEmpty : begunReverse ≠ []) (ends : EndsUnbroken text) (hasWords : HasWords text found) :
    HasWords (begunReverse.reverse ++ text) (begunReverse.reverse :: found) :=
  .word isGap_nil ⟨by simpa using notEmpty, by simpa using unbroken⟩ ends hasWords

/-- The induction is on what follows a word that may have begun. -/
theorem hasWords_wordsAfter (unbroken : ∀ character ∈ begunReverse, isBlank character = false) :
    HasWords (begunReverse.reverse ++ text) (wordsAfter begunReverse text) := by
  induction text generalizing begunReverse with
  | nil =>
      by_cases isEmpty : begunReverse = []
      · subst isEmpty
        exact .gap isGap_nil
      · rw [wordsAfter_ends isEmpty endsUnbroken_nil]
        exact hasWords_append unbroken isEmpty endsUnbroken_nil (.gap isGap_nil)
  | cons character text induction =>
      cases blank : isBlank character with
      | true =>
          have behind : HasWords (character :: text) (wordsAfter [] (character :: text)) := by
            simp only [wordsAfter, blank, if_true]
            exact (induction (List.forall_mem_nil _)).cons_blank blank
          by_cases isEmpty : begunReverse = []
          · subst isEmpty
            exact behind
          · have ends : EndsUnbroken (character :: text) := endsUnbroken_cons blank
            rw [wordsAfter_ends isEmpty ends]
            exact hasWords_append unbroken isEmpty ends behind
      | false =>
          rw [wordsAfter_cons blank]
          simpa using induction (List.forall_mem_cons.mpr ⟨blank, unbroken⟩)

theorem words_eq_iff : words text = found ↔ HasWords text found := by
  constructor
  · rintro rfl
    exact hasWords_wordsAfter (List.forall_mem_nil _)
  · exact HasWords.words_eq

/-- A text has two words if there is a gap between them, and at most gaps around them. -/
theorem words_eq_pair_iff :
    words text = [first, second] ↔
      ∃ before between after, text = before ++ (first ++ (between ++ (second ++ after))) ∧
        IsGap before ∧ IsUnbroken first ∧ IsGap between ∧ between ≠ [] ∧ IsUnbroken second ∧
          IsGap after := by
  rw [words_eq_iff]
  constructor
  · rintro (_ | @⟨before, _, _, _, isBefore, isFirst, ends, hasOthers⟩)
    rcases hasOthers with _ | @⟨between, _, behind, _, isBetween, isSecond, _, ⟨isAfter⟩⟩
    refine ⟨before, between, behind, rfl, isBefore, isFirst, isBetween, ?_, isSecond, isAfter⟩
    rintro rfl
    obtain ⟨character, others, rfl⟩ := List.exists_cons_of_ne_nil isSecond.1
    have notBlank := isSecond.2 character List.mem_cons_self
    rw [ends character rfl] at notBlank
    cases notBlank
  · rintro ⟨before, between, after, rfl, isBefore, isFirst, isBetween, notEmpty, isSecond, isAfter⟩
    exact .word isBefore isFirst (endsUnbroken_append isBetween notEmpty)
      (.word isBetween isSecond (endsUnbroken_of_isGap isAfter) (.gap isAfter))

theorem skipBlanks_append (isGap : IsGap gap) (isUnbroken : IsUnbroken word) :
    skipBlanks (gap ++ (word ++ text)) = word ++ text := by
  obtain ⟨⟨character, others, rfl⟩, unbroken⟩ :=
    And.imp_left List.exists_cons_of_ne_nil isUnbroken
  rw [skipBlanks, List.dropWhile_append_of_pos isGap, List.cons_append,
    List.dropWhile_cons_of_neg (by simp [unbroken character List.mem_cons_self])]

/-- The gaps around a word are left away. -/
theorem trimBlanks_append {before after : List Char} (isBefore : IsGap before)
    (isUnbroken : IsUnbroken word) (isAfter : IsGap after) :
    trimBlanks (before ++ (word ++ after)) = word := by
  have isReverse : IsGap after.reverse := by simpa [IsGap] using isAfter
  have unbrokenReverse : IsUnbroken word.reverse := by simpa [IsUnbroken] using isUnbroken
  have skipped : skipBlanks (after.reverse ++ (word.reverse ++ [])) = word.reverse ++ [] :=
    skipBlanks_append isReverse unbrokenReverse
  rw [List.append_nil] at skipped
  rw [trimBlanks, skipBlanks_append isBefore isUnbroken, List.reverse_append, skipped,
    List.reverse_reverse]

theorem isBlank_eq_false_of_digitValue? {character : Char} {digit : Nat}
    (isDigit : digitValue? character = some digit) : isBlank character = false := by
  have isAscii : character.toNat < 128 := by
    by_contra above
    have notDigit {last : Char} (atMost : last.toNat < 128) : ¬character ≤ last :=
      fun isBelow => above (Nat.lt_of_le_of_lt isBelow atMost)
    simp [digitValue?, notDigit (by decide : '9'.toNat < 128),
      notDigit (by decide : 'f'.toNat < 128), notDigit (by decide : 'F'.toNat < 128)] at isDigit
  have all : ∀ code < 128, (digitValue? (Char.ofNat code)).isSome = true →
      isBlank (Char.ofNat code) = false := by decide
  have notBlank := all _ isAscii
  rw [Char.ofNat_toNat, isDigit] at notBlank
  exact notBlank rfl

end

end Text

end BinaryRecords
