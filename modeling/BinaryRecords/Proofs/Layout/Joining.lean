import BinaryRecords.Proofs.Layout.ItemPhrases
import BinaryRecords.Proofs.Layout.Spelling
import Mathlib.Data.List.TakeWhile

/-!
# Joining texts

A text whose tokens have all been read is followed by another one.  Where this does not
continue the last name or number, the tokens of the two stand one behind the other, and
nothing that has been read is read in another way.  So the items of two texts are those of
one text with blanks in between.
-/

namespace BinaryRecords

namespace Layout

variable {text rest after more gap : List Char} {first : Char} {token : Token}
  {tokens : List Token}

theorem endsWord_afterWord (text : List Char) : EndsWord (afterWord text) := by
  intro character head_eq
  have notPassed := List.head?_dropWhile_not isWord text
  rw [afterWord] at head_eq
  rw [head_eq] at notPassed
  simpa using notPassed

/-- What does not continue a word leaves all words in front of it as they are. -/
theorem wordOf_append_of_endsWord (ends : EndsWord more) (text : List Char) :
    wordOf (text ++ more) = wordOf text ∧ afterWord (text ++ more) = afterWord text ++ more := by
  have continues : ∀ character ∈ wordOf text, isWord character = true :=
    List.all_eq_true.mp List.all_takeWhile
  have endsBehind : EndsWord (afterWord text ++ more) := (endsWord_afterWord text).append ends
  have split : text ++ more = wordOf text ++ (afterWord text ++ more) := by
    rw [← List.append_assoc, wordOf, afterWord, List.takeWhile_append_dropWhile]
  rw [split]
  exact ⟨wordOf_append continues endsBehind, afterWord_append continues endsBehind⟩

theorem readNumber_append_of_endsWord (ends : EndsWord more) (text : List Char) :
    readNumber (text ++ more) = readNumber text := by
  simp only [readNumber, (wordOf_append_of_endsWord ends text).1]

theorem readName_append_of_endsWord {name : String} (ends : EndsWord more)
    (read : readName text = .ok name) : readName (text ++ more) = .ok name := by
  cases text with
  | nil => cases read
  | cons first rest =>
      have word_eq := (wordOf_append_of_endsWord ends (first :: rest)).1
      rw [List.cons_append] at word_eq
      unfold readName at read ⊢
      simp only [List.cons_append] at read ⊢
      split at read
      · rename_i begins
        rw [if_pos begins, word_eq, read]
      · cases read

/-- The five ways in which a token has been read. -/
theorem readToken_cases (read : readToken first rest = .ok (token, after)) :
    (first = ':' ∧ token = .colon ∧ after = rest) ∨
    (first = '#' ∧ after = afterWord rest ∧
      ∃ number, readNumber rest = .ok number ∧ token = .length number) ∨
    (first = '*' ∧ after = afterWord rest ∧
      ∃ number, readNumber rest = .ok number ∧ token = .count number) ∨
    (first = '@' ∧ after = afterWord rest ∧
      ∃ name, readName rest = .ok name ∧ token = .call name) ∨
    (beginsName first = true ∧ after = afterWord (first :: rest) ∧
      ∃ name, readName (first :: rest) = .ok name ∧ token = tokenOfName name) := by
  unfold readToken at read
  split at read
  · cases read
    exact .inl ⟨rfl, rfl, rfl⟩
  · cases number : readNumber rest <;> rw [number] at read <;> cases read
    exact .inr (.inl ⟨rfl, rfl, _, rfl, rfl⟩)
  · cases number : readNumber rest <;> rw [number] at read <;> cases read
    exact .inr (.inr (.inl ⟨rfl, rfl, _, rfl, rfl⟩))
  · cases name : readName rest <;> rw [name] at read <;> cases read
    exact .inr (.inr (.inr (.inl ⟨rfl, rfl, _, rfl, rfl⟩)))
  · cases name : readName (first :: rest) <;> rw [name] at read <;> cases read
    refine .inr (.inr (.inr (.inr ⟨?_, rfl, _, rfl, rfl⟩)))
    by_contra notName
    simp [readName, notName] at name

/-- A token is read in the same way in front of what does not continue it. -/
theorem readToken_append_of_endsWord (ends : EndsWord more)
    (read : readToken first rest = .ok (token, after)) :
    readToken first (rest ++ more) = .ok (token, after ++ more) := by
  have behind := (wordOf_append_of_endsWord ends rest).2
  rcases readToken_cases read with ⟨rfl, rfl, rfl⟩ | ⟨rfl, rfl, number, numberRead, rfl⟩ |
    ⟨rfl, rfl, number, numberRead, rfl⟩ | ⟨rfl, rfl, name, nameRead, rfl⟩ |
    ⟨begins, rfl, name, nameRead, rfl⟩
  · rfl
  · simp only [readToken, readNumber_append_of_endsWord ends, numberRead, behind, Except.map]
  · simp only [readToken, readNumber_append_of_endsWord ends, numberRead, behind, Except.map]
  · simp only [readToken, readName_append_of_endsWord ends nameRead, behind, Except.map]
  · have behindName := (wordOf_append_of_endsWord ends (first :: rest)).2
    have nameAgain := readName_append_of_endsWord ends nameRead
    rw [List.cons_append] at behindName nameAgain
    simp only [readToken_of_beginsName begins, nameAgain, behindName, Except.map]

theorem isGap_of_skipBlanks_eq_nil (unread : Text.skipBlanks text = []) : IsGap text :=
  List.dropWhile_eq_nil_iff.mp unread

theorem tokenize_of_failure {failure : Error} (unread : Text.skipBlanks text = first :: rest)
    (failed : readToken first rest = .error failure) : tokenize text = ⟨[], some failure⟩ := by
  rw [tokenize]
  split
  · rename_i none
    rw [unread] at none
    cases none
  · rename_i begins
    cases unread.symm.trans begins
    split
    · rename_i found
      cases failed.symm.trans found
      rfl
    · rename_i read
      cases failed.symm.trans read

/-- Blanks in front of a text have no tokens. -/
theorem tokenize_gap_append (isGap : IsGap gap) (text : List Char) :
    tokenize (gap ++ text) = tokenize text := by
  have passed : Text.skipBlanks (gap ++ text) = Text.skipBlanks text :=
    List.dropWhile_append_of_pos isGap
  cases unread : Text.skipBlanks text with
  | nil =>
      have isGapAll : IsGap (gap ++ text) := isGap_of_skipBlanks_eq_nil (passed.trans unread)
      rw [tokenize_of_gap isGapAll, tokenize_of_gap (isGap_of_skipBlanks_eq_nil unread)]
  | cons first rest =>
      cases read : readToken first rest with
      | error failure =>
          rw [tokenize_of_failure (passed.trans unread) read, tokenize_of_failure unread read]
      | ok pair =>
          rw [tokenize_of_readToken (passed.trans unread) read, tokenize_of_readToken unread read]

/-- The tokens of a text that is followed by what does not continue it. -/
theorem tokenize_append_of_endsWord (ends : EndsWord more)
    (lexed : (tokenize text).failure = none) :
    tokenize (text ++ more) =
      ⟨(tokenize text).tokens ++ (tokenize more).tokens, (tokenize more).failure⟩ := by
  fun_induction tokenize text with
  | case1 text unread =>
      rw [tokenize_gap_append (isGap_of_skipBlanks_eq_nil unread), List.nil_append]
  | case2 => cases lexed
  | case3 text first rest unread token after read shorter others induction =>
      have unreadJoined : Text.skipBlanks (text ++ more) = first :: (rest ++ more) := by
        rw [Text.skipBlanks] at unread ⊢
        rw [List.dropWhile_append, unread]
        rfl
      rw [tokenize_of_readToken unreadJoined (readToken_append_of_endsWord ends read),
        induction lexed]
      rfl

/-- The items of two texts with blanks in between are those of the first text and then
those of the second. -/
theorem parseItems_append {first second blanks : String} {items others : List Item}
    (parsed : parseItems first = .ok items) (parsedOthers : parseItems second = .ok others)
    (isGap : IsGap blanks.toList) (notEmpty : blanks ≠ "") :
    parseItems (first ++ blanks ++ second) = .ok (items ++ others) := by
  obtain ⟨noFailure, phrases, reading, rfl⟩ := exists_reading_of_parseItems parsed
  obtain ⟨noFailureBehind, otherPhrases, otherReading, rfl⟩ :=
    exists_reading_of_parseItems parsedOthers
  have someBlank : blanks.toList ≠ [] := by
    rwa [Ne, String.toList_eq_nil_iff]
  have ends : EndsWord (blanks.toList ++ second.toList) := isGap.endsWord_append someBlank
  have lexed := tokenize_append_of_endsWord ends noFailure
  rw [tokenize_gap_append isGap, ← List.append_assoc, ← String.toList_append,
    ← String.toList_append] at lexed
  have joined := reading.append otherReading
  rw [← List.map_append]
  apply parseItems_of_reading
  · rw [lexed]
    exact noFailureBehind
  · rw [lexed]
    exact joined

end Layout

end BinaryRecords
