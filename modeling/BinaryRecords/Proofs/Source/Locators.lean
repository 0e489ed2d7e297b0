import BinaryRecords.Proofs.Text.Words
import BinaryRecords.Source.Open

/-!
# Reading locators

A locator of memory or of a segment is read back from its text, however the numbers are spelled
and spaced.  The beginning of a text alone decides which kind of locator it is read as, if any.
-/

namespace BinaryRecords

namespace Locator

open Layout (IsGap)
open Text (IsNumeral IsUnbroken)

/-- Whether a text has none of the beginnings that tell it from a path. -/
structure IsUnmarked (text : String) : Prop where
  notReserved : ∀ rest, text ≠ "test:" ++ rest
  notMemory : ∀ rest, text ≠ "malloc:" ++ rest
  notSegment : ∀ rest, text ≠ "sysvshmem:" ++ rest

section Numerals

variable {base : Nat} {text : List Char} {number : UInt64}

theorem skipPlus_eq_self (notPlus : '+' ∉ text) : Text.skipPlus text = text := by
  rw [Text.skipPlus.eq_def]
  split
  · exact absurd List.mem_cons_self notPlus
  · rfl

theorem skipHexMark_eq_self (notMark : 'x' ∉ text) (notUpperMark : 'X' ∉ text) :
    skipHexMark text = text := by
  rw [skipHexMark.eq_def]
  split
  · exact absurd (by simp) notMark
  · exact absurd (by simp) notUpperMark
  · rfl

theorem word?_of_isNumeral (isNumeral : IsNumeral base text number.toNat) (atLeast : 1 < base)
    (atMost : base ≤ 16) : word? base text = some number := by
  rw [word?, skipPlus_eq_self (isNumeral.notMem atLeast atMost rfl),
    isNumeral.word?_eq atLeast atMost]

theorem isUnbroken_of_isNumeral (isNumeral : IsNumeral base text number.toNat) (atLeast : 1 < base)
    (atMost : base ≤ 16) : IsUnbroken text := by
  refine ⟨isNumeral.ne_nil, fun character member => ?_⟩
  obtain ⟨digit, isDigit⟩ := isNumeral.exists_digitValue? atLeast atMost member
  exact Text.isBlank_eq_false_of_digitValue? isDigit

theorem isUnbroken_toString (number : Int) : IsUnbroken (toString number).toList := by
  refine ⟨Text.toList_toString_ne_nil number, fun character member => ?_⟩
  rcases Text.eq_minus_or_isDigit_of_mem_toString member with rfl | isDigit
  · decide
  · apply Layout.isBlank_eq_false_of_isWord
    simp [Layout.isWord, Char.isAlphanum, isDigit]

end Numerals

section Kinds

variable {text : String} {rest : List Char} {locator : Locator}

theorem after?_eq_some_iff {mark text : List Char} :
    after? mark text = some rest ↔ text = mark ++ rest := by
  rw [after?]
  constructor
  · intro found
    split at found
    · rename_i isPrefix
      obtain ⟨behind, rfl⟩ := List.isPrefixOf_iff_prefix.mp isPrefix
      rw [List.drop_left] at found
      rw [Option.some.inj found]
    · cases found
  · rintro rfl
    rw [if_pos (List.isPrefixOf_iff_prefix.mpr (List.prefix_append mark rest)), List.drop_left]

theorem after?_toList_eq_some_iff {mark rest : String} :
    after? mark.toList text.toList = some rest.toList ↔ text = mark ++ rest := by
  rw [after?_eq_some_iff, ← String.toList_append, String.toList_inj]

/-- Whatever a text with a mark goes on with, it has no mark that begins otherwise. -/
theorem append_ne_append {mark other : String} {first otherFirst : Char}
    (isFirst : mark.toList.head? = some first) (isOtherFirst : other.toList.head? = some otherFirst)
    (different : first ≠ otherFirst) (rest others : String) : mark ++ rest ≠ other ++ others := by
  intro same
  have heads : first = otherFirst := by
    simpa [isFirst, isOtherFirst] using congrArg (fun text => text.toList.head?) same
  exact different heads

theorem ofText?_reserved (rest : String) : ofText? ("test:" ++ rest) = some (.reserved rest) := by
  have found : after? reservedMark ("test:" ++ rest).toList = some rest.toList :=
    after?_toList_eq_some_iff.mpr rfl
  simp only [ofText?, found, String.ofList_toList]

theorem after?_eq_none_iff {mark : String} :
    after? mark.toList text.toList = none ↔ ∀ rest, text ≠ mark ++ rest := by
  simp only [Option.eq_none_iff_forall_ne_some, ne_eq]
  constructor
  · intro none rest same
    exact none rest.toList (after?_toList_eq_some_iff.mpr same)
  · intro notMarked rest found
    rw [← String.toList_ofList (l := rest)] at found
    exact notMarked _ (after?_toList_eq_some_iff.mp found)

theorem ofText?_memory (rest : String) : ofText? ("malloc:" ++ rest) = memory? rest.toList := by
  have notReserved : after? reservedMark ("malloc:" ++ rest).toList = none :=
    after?_eq_none_iff.mpr (append_ne_append rfl rfl (by decide) rest)
  have found : after? memoryMark ("malloc:" ++ rest).toList = some rest.toList :=
    after?_toList_eq_some_iff.mpr rfl
  simp only [ofText?, notReserved, found]

theorem ofText?_segment (rest : String) :
    ofText? ("sysvshmem:" ++ rest) = segment? rest.toList := by
  have notReserved : after? reservedMark ("sysvshmem:" ++ rest).toList = none :=
    after?_eq_none_iff.mpr (append_ne_append rfl rfl (by decide) rest)
  have notMemory : after? memoryMark ("sysvshmem:" ++ rest).toList = none :=
    after?_eq_none_iff.mpr (append_ne_append rfl rfl (by decide) rest)
  have found : after? segmentMark ("sysvshmem:" ++ rest).toList = some rest.toList :=
    after?_toList_eq_some_iff.mpr rfl
  simp only [ofText?, notReserved, notMemory, found]

theorem IsUnmarked.ofText?_eq (isUnmarked : IsUnmarked text) :
    ofText? text = if text = "" then none else some (.path text) := by
  have notReserved : after? reservedMark text.toList = none :=
    after?_eq_none_iff.mpr isUnmarked.notReserved
  have notMemory : after? memoryMark text.toList = none :=
    after?_eq_none_iff.mpr isUnmarked.notMemory
  have notSegment : after? segmentMark text.toList = none :=
    after?_eq_none_iff.mpr isUnmarked.notSegment
  simp only [ofText?, notReserved, notMemory, notSegment]

/-- What is read as memory are two words, an address and a size, with no bytes at address zero. -/
theorem memory?_eq_some_iff :
    memory? rest = some locator ↔
      ∃ first second address size, Text.words rest = [first, second] ∧
        word? 16 (skipHexMark first) = some address ∧ word? 10 second = some size ∧
          (address ≠ 0 ∨ size = 0) ∧ locator = .memory address size := by
  constructor
  · intro read
    rw [memory?] at read
    split at read
    · rename_i first second words_eq
      split at read
      · rename_i address size isAddress isSize
        split at read
        · cases read
        · rename_i isAllowed
          rw [not_and_or, ne_eq, not_not] at isAllowed
          exact ⟨first, second, address, size, words_eq, isAddress, isSize, isAllowed,
            (Option.some.inj read).symm⟩
      · cases read
    · cases read
  · rintro ⟨first, second, address, size, words_eq, isAddress, isSize, isAllowed, rfl⟩
    have notRefused : ¬(address = 0 ∧ size ≠ 0) := by rwa [not_and_or, ne_eq, not_not]
    simp only [memory?, words_eq, isAddress, isSize, if_neg notRefused]

theorem segment?_eq_some_iff :
    segment? rest = some locator ↔
      ∃ id : Int32, Text.signedDecimal? (Text.trimBlanks rest) = some id.toInt ∧
        locator = .segment id := by
  constructor
  · intro read
    rw [segment?] at read
    split at read
    · rename_i number isNumber
      split at read
      · rename_i inRange
        refine ⟨Int32.ofInt number, ?_, (Option.some.inj read).symm⟩
        rw [isNumber, Int32.toInt_ofInt_of_le inRange.1 (by omega)]
      · cases read
    · cases read
  · rintro ⟨id, isNumber, rfl⟩
    have inRange : -2147483648 ≤ id.toInt ∧ id.toInt ≤ 2147483647 :=
      ⟨id.minValue_le_toInt, by have := id.toInt_lt; omega⟩
    simp only [segment?, isNumber, if_pos inRange, Int32.ofInt_toInt]

/-- The beginning of a text decides how it is read. -/
theorem ofText?_cases (text : String) :
    (∃ rest, text = "test:" ++ rest) ∨ (∃ rest, text = "malloc:" ++ rest) ∨
      (∃ rest, text = "sysvshmem:" ++ rest) ∨ IsUnmarked text := by
  by_contra none
  simp only [not_or, not_exists] at none
  exact none.2.2.2 ⟨none.1, none.2.1, none.2.2.1⟩

theorem exists_words_of_memory {address size : UInt64}
    (read : ofText? text = some (.memory address size)) :
    (address ≠ 0 ∨ size = 0) ∧ ∃ rest : String, text = "malloc:" ++ rest ∧
      ∃ first second, Text.words rest.toList = [first, second] := by
  rcases ofText?_cases text with ⟨rest, rfl⟩ | ⟨rest, rfl⟩ | ⟨rest, rfl⟩ | isUnmarked
  · rw [ofText?_reserved] at read
    cases read
  · rw [ofText?_memory, memory?_eq_some_iff] at read
    obtain ⟨first, second, _, _, words_eq, _, _, isAllowed, same⟩ := read
    cases same
    exact ⟨isAllowed, rest, rfl, first, second, words_eq⟩
  · rw [ofText?_segment, segment?_eq_some_iff] at read
    obtain ⟨id, _, same⟩ := read
    cases same
  · rw [isUnmarked.ofText?_eq] at read
    split at read <;> cases read

section RoundTrips

variable {address size : UInt64} {before mark digits between after : String}

/-- A word may have a mark in front of its digits, which is skipped. -/
theorem skipHexMark_append (isMark : mark = "0x" ∨ mark = "0X" ∨ mark = "")
    (isAddress : IsNumeral 16 digits.toList address.toNat) :
    skipHexMark (mark.toList ++ digits.toList) = digits.toList := by
  rcases isMark with rfl | rfl | rfl
  · rfl
  · rfl
  · exact skipHexMark_eq_self (isAddress.notMem (by decide) (by decide) rfl)
      (isAddress.notMem (by decide) (by decide) rfl)

theorem isUnbroken_append (isMark : mark = "0x" ∨ mark = "0X" ∨ mark = "")
    (isAddress : IsNumeral 16 digits.toList address.toNat) :
    IsUnbroken (mark.toList ++ digits.toList) := by
  have isWord : mark.toList.all Layout.isWord = true := by
    rcases isMark with rfl | rfl | rfl <;> rfl
  have markUnbroken : ∀ character ∈ mark.toList, Text.isBlank character = false :=
    fun character member =>
      Layout.isBlank_eq_false_of_isWord (List.all_eq_true.mp isWord character member)
  have isUnbroken : IsUnbroken digits.toList :=
    isUnbroken_of_isNumeral isAddress (by decide) (by decide)
  refine ⟨List.append_ne_nil_of_right_ne_nil _ isUnbroken.1, fun character member => ?_⟩
  exact (List.mem_append.mp member).elim (markUnbroken character) (isUnbroken.2 character)

theorem ofText?_of_memory (isAllowed : address ≠ 0 ∨ size = 0)
    (isMark : mark = "0x" ∨ mark = "0X" ∨ mark = "")
    (isAddress : IsNumeral 16 digits.toList address.toNat) (isBefore : IsGap before.toList)
    (isBetween : IsGap between.toList) (notEmpty : between ≠ "") (isAfter : IsGap after.toList) :
    ofText? ("malloc:" ++ before ++ mark ++ digits ++ between ++ toString size.toNat ++ after) =
      some (.memory address size) := by
  have isSize : IsNumeral 10 (toString size.toNat).toList size.toNat := by
    have digits_eq : (toString size.toNat).toList = Nat.toDigits 10 size.toNat := Nat.toList_repr
    rw [digits_eq]
    exact Text.isNumeral_toDigits (by decide) (by decide) size.toNat
  simp only [String.append_assoc]
  rw [ofText?_memory, memory?_eq_some_iff]
  refine ⟨mark.toList ++ digits.toList, (toString size.toNat).toList, address, size, ?_, ?_, ?_,
    isAllowed, rfl⟩
  · refine Text.words_eq_pair_iff.mpr ⟨before.toList, between.toList, after.toList, ?_, isBefore,
      isUnbroken_append isMark isAddress, isBetween, ?_,
      isUnbroken_of_isNumeral isSize (by decide) (by decide), isAfter⟩
    · simp
    · simpa using notEmpty
  · rw [skipHexMark_append isMark isAddress]
    exact word?_of_isNumeral isAddress (by decide) (by decide)
  · exact word?_of_isNumeral isSize (by decide) (by decide)

theorem ofText?_of_segment (id : Int32) :
    ofText? ("sysvshmem:" ++ toString id.toInt) = some (.segment id) := by
  have trimmed :=
    Text.trimBlanks_append Layout.isGap_nil (isUnbroken_toString id.toInt) Layout.isGap_nil
  rw [List.nil_append, List.append_nil] at trimmed
  rw [ofText?_segment, segment?_eq_some_iff]
  exact ⟨id, by rw [trimmed, Text.signedDecimal?_toString], rfl⟩

end RoundTrips

theorem parse_eq_ok_iff : parse text = .ok locator ↔ ofText? text = some locator := by
  rw [parse]
  cases ofText? text <;> simp

theorem eq_of_parse_eq_error {failure : Error} (failed : parse text = .error failure) :
    failure = .invalidLocator text := by
  rw [parse] at failed
  cases read : ofText? text with
  | some locator => simp [read] at failed
  | none => simpa [read, eq_comm] using failed

end Kinds

/-- Locators of memory and of segments are read back from their texts, in which the address may
be spelled in either case and with a mark or without, and blanks may stand around both numbers.
The text of a segment is the name of its source.  What begins with the mark of reserved locators
is one of them.  Memory is only read from two words behind its mark, and never as bytes at address
zero.  A text without marks is a path unless it is empty, and all other failures too are those of
the whole text. -/
theorem locators_are_read_back :
    (∀ (address size : UInt64) (before mark digits between after : String),
      address ≠ 0 ∨ size = 0 → mark = "0x" ∨ mark = "0X" ∨ mark = "" →
        IsNumeral 16 digits.toList address.toNat → IsGap before.toList → IsGap between.toList →
          between ≠ "" → IsGap after.toList →
            parse ("malloc:" ++ before ++ mark ++ digits ++ between ++ toString size.toNat ++
              after) = .ok (.memory address size)) ∧
    (∀ id : Int32, parse ("sysvshmem:" ++ toString id.toInt) = .ok (.segment id) ∧
      ∀ machine source, Source.openSegment machine id = .ok source →
        source.name = "sysvshmem:" ++ toString id.toInt) ∧
    (∀ rest, parse ("test:" ++ rest) = .ok (.reserved rest)) ∧
    (∀ text address size, parse text = .ok (.memory address size) →
      (address ≠ 0 ∨ size = 0) ∧
        ∃ before first between second after : String,
          text = "malloc:" ++ before ++ first ++ between ++ second ++ after ∧
            IsGap before.toList ∧ IsUnbroken first.toList ∧ IsGap between.toList ∧
              between ≠ "" ∧ IsUnbroken second.toList ∧ IsGap after.toList) ∧
    (∀ text, text ≠ "" → IsUnmarked text → parse text = .ok (.path text)) ∧
    ∀ text failure, parse text = .error failure → failure = .invalidLocator text := by
  simp only [parse_eq_ok_iff]
  refine ⟨?_, fun id => ⟨ofText?_of_segment id, ?_⟩, ofText?_reserved, ?_, ?_,
    fun text failure => eq_of_parse_eq_error⟩
  · intro address size before mark digits between after isAllowed isMark isAddress
    exact ofText?_of_memory isAllowed isMark isAddress
  · intro machine source opened
    rw [Source.openSegment] at opened
    cases found : machine.segment id with
    | ok bytes =>
        rw [found] at opened
        cases opened
        rfl
    | error refusal =>
        rw [found] at opened
        cases opened
  · intro text address size read
    obtain ⟨isAllowed, rest, rfl, first, second, words_eq⟩ := exists_words_of_memory read
    obtain ⟨before, between, after, rest_eq, isBefore, isFirst, isBetween, notEmpty, isSecond,
      isAfter⟩ := Text.words_eq_pair_iff.mp words_eq
    refine ⟨isAllowed, String.ofList before, String.ofList first, String.ofList between,
      String.ofList second, String.ofList after, ?_, ?_⟩
    · rw [← String.toList_inj]
      simp [rest_eq]
    · simp only [String.toList_ofList]
      exact ⟨isBefore, isFirst, isBetween, by simpa using notEmpty, isSecond, isAfter⟩
  · intro text notEmpty isUnmarked
    rw [isUnmarked.ofText?_eq, if_neg notEmpty]

/-- A wide blank in front of an address with letters of both cases, the least number of a segment,
a reserved locator that looks like one of memory, a path that is nearly marked, and bytes at
address zero. -/
theorem locators_are_read_back_spelled :
    let machine : Machine := ⟨fun _ _ => [], fun _ => .error .notFound,
      fun _ => .error ⟨.openFile, .notFound⟩, fun _ => .error ⟨.openSharedMemory, .notFound⟩,
      fun _ => .ok [7]⟩
    let source := Source.ofBytes "sysvshmem:-2147483648" [7]
    parse "malloc:　0XdeadBEEF\t16\n" = .ok (.memory 0xDEADBEEF 16) ∧
      ((0xDEADBEEF : UInt64) ≠ 0 ∨ (16 : UInt64) = 0) ∧
      Source.openSegment machine (-2147483648) = .ok source ∧
      parse source.name = .ok (.segment (-2147483648)) ∧
      parse "test:malloc:0 0" = .ok (.reserved "malloc:0 0") ∧
      parse "malloc" = .ok (.path "malloc") ∧
      parse "malloc:0x0 1" = .error (.invalidLocator "malloc:0x0 1") := by
  intro machine source
  obtain ⟨memory, segment, reserved, onlyWords, path, failures⟩ := locators_are_read_back
  have isGap {blank : Char} (isBlank : Text.isBlank blank = true) : IsGap [blank] :=
    List.forall_mem_singleton.mpr isBlank
  have read : parse "malloc:　0XdeadBEEF\t16\n" = .ok (.memory 0xDEADBEEF 16) :=
    memory 0xDEADBEEF 16 "　" "0X" "deadBEEF" "\t" "\n" (by decide) (.inr (.inl rfl)) rfl
      (isGap rfl) (isGap rfl) (by decide) (isGap rfl)
  have opened : Source.openSegment machine (-2147483648) = .ok source := rfl
  obtain ⟨segmentRead, isNamed⟩ := segment (-2147483648)
  have unmarked : IsUnmarked "malloc" :=
    ⟨after?_eq_none_iff.mp rfl, after?_eq_none_iff.mp rfl, after?_eq_none_iff.mp rfl⟩
  obtain ⟨failure, refused⟩ : ∃ failure, parse "malloc:0x0 1" = .error failure := ⟨_, rfl⟩
  refine ⟨read, (onlyWords _ _ _ read).1, opened, ?_, reserved "malloc:0 0",
    path "malloc" (by decide) unmarked, ?_⟩
  · rw [isNamed machine source opened]
    exact segmentRead
  · rw [refused, failures _ _ refused]

end Locator

end BinaryRecords
