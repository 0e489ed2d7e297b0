import BinaryRecords.Extract.Catalogue
import BinaryRecords.Proofs.Extract.Members
import BinaryRecords.Proofs.Text.Utf8
import Mathlib.Algebra.Group.Int.Defs

/-!
# Writing extracts

An extract is written as a value again: a list as an array, a shape as a record of its members
that are not skipped, and what is absent not at all.  For targets without floating point numbers
the value that is written yields the same extract as the one that it was made of.
-/

namespace BinaryRecords

namespace IntegerTarget

/-- The number of bits of a type. -/
def width : IntegerTarget → Nat
  | u8 => 8
  | u16 | i16 => 16
  | u32 | i32 => 32
  | u64 | i64 => 64

def isSigned : IntegerTarget → Bool
  | u8 | u16 | u32 | u64 => false
  | i16 | i32 | i64 => true

/-- Whether a number can be written in the bits of a type, in two's complement if it has signs. -/
def InRange (type : IntegerTarget) (number : Int) : Prop :=
  if type.isSigned then
    -2 ^ (type.width - 1) ≤ number ∧ number < 2 ^ (type.width - 1)
  else
    0 ≤ number ∧ number < 2 ^ type.width

theorem holds_eq_true_iff {type : IntegerTarget} {number : Int} :
    type.holds number = true ↔ type.InRange number := by
  rw [holds, Bool.and_eq_true, decide_eq_true_iff, decide_eq_true_iff]
  cases type <;>
    simp only [InRange, isSigned, width, least, greatest, if_true, Bool.false_eq_true, if_false] <;>
    omega

end IntegerTarget

namespace Target

mutual

/-- The value that an extract of a target is written as.  What is absent is not written. -/
def write? : Target → Extract → Option Value
  | integer _, .integer number => some (.integer (Int64.ofInt number))
  | float32, .float32 number => some (.float number.widen)
  | float64, .float64 number => some (.float number)
  | text, .text content => some (.string (Text.Utf8.encode content))
  | anyValue, .value value => some value
  | anyRecord, .record record => some (.record record)
  | list element, .list extracts => (extracts.mapM (write? element)).map .array
  | option content, .present extract => write? content extract
  | shape members, .members extracts => some (.record (writeMembers members extracts))
  | _, _ => none

/-- The entries for the members of a shape, each under its key. -/
def writeMembers : List (Member Target) → List Extract → Record
  | .keyed key target :: members, extract :: extracts =>
      ((write? target extract).map fun value => (key, value)).toList ++
        writeMembers members extracts
  | .skipped _ :: members, _ :: extracts => writeMembers members extracts
  | _, _ => []

end

/-- Whether there are no floating point numbers in a target, and the members of each shape have
keys of their own. -/
inductive IsExact : Target → Prop
  | integer (type : IntegerTarget) : IsExact (.integer type)
  | text : IsExact .text
  | anyValue : IsExact .anyValue
  | anyRecord : IsExact .anyRecord
  | list {element : Target} (isExact : IsExact element) : IsExact (.list element)
  | option {content : Target} (isExact : IsExact content) : IsExact (.option content)
  | shape {members : Shape} (distinct : members.keys.Nodup)
      (each : ∀ key target, .keyed key target ∈ members → IsExact target) :
      IsExact (.shape members)

/-- A string is converted to a list as the array of its bytes is. -/
theorem ofValue_list_string (element : Target) (bytes : List UInt8) :
    (list element).ofValue (.string bytes) =
      (list element).ofValue (.array (bytes.map .ofByte)) := by
  rw [ofValue, ofValue, Value.expectElements, Value.expectElements]

section

variable {value : Value} {extract : Extract}

theorem ofValue_integer_eq_ok_iff {type : IntegerTarget} :
    (integer type).ofValue value = .ok extract ↔
      ∃ number : Int64, value = .integer number ∧ type.InRange number.toInt ∧
        extract = .integer number.toInt := by
  rw [ofValue, exceptMap_eq_ok_iff]
  cases value with
  | integer number =>
      by_cases inRange : type.InRange number.toInt
      · simp [Value.expectWithin, Value.expectInteger, IntegerTarget.holds_eq_true_iff, inRange]
      · simp [Value.expectWithin, Value.expectInteger, IntegerTarget.holds_eq_true_iff, inRange]
  | float number | string bytes | array elements | record entries =>
      simp [Value.expectWithin, Value.expectInteger]

theorem ofValue_text_eq_ok_iff :
    text.ofValue value = .ok extract ↔
      ∃ bytes content, value = .string bytes ∧ Text.Utf8.decode? bytes = some content ∧
        extract = .text content := by
  rw [ofValue, exceptMap_eq_ok_iff]
  cases value with
  | string bytes => cases decoded : Text.Utf8.decode? bytes <;> simp [Value.expectText, decoded]
  | integer number | float number | array elements | record entries => simp [Value.expectText]

theorem ofValue_list_eq_ok_iff {element : Target} :
    (list element).ofValue value = .ok extract ↔
      ∃ elements extracts, value.expectElements = .ok elements ∧ extract = .list extracts ∧
        List.Forall₂ (fun value extract => element.ofValue value = .ok extract)
          elements extracts := by
  cases value with
  | array elements =>
      simp [ofValue_list_array, exceptMap_eq_ok_iff, mapM_eq_ok_iff, Value.expectElements, and_comm]
  | string bytes =>
      simp [ofValue_list_string, ofValue_list_array, exceptMap_eq_ok_iff, mapM_eq_ok_iff,
        Value.expectElements, and_comm]
  | integer number | float number | record entries =>
      rw [ofValue]
      constructor
      · intro converted
        cases converted
      · rintro ⟨_, _, found, _⟩
        cases found

theorem ofValue_shape_eq_ok_iff {members : Shape} :
    (shape members).ofValue value = .ok extract ↔
      ∃ (record : Record) (extracts : List Extract), value = .record record ∧
        extract = .members extracts ∧ List.Forall₂ record.Makes members extracts := by
  cases value with
  | record record =>
      simp [ofValue_shape_record, exceptMap_eq_ok_iff, membersOfRecord_eq_mapM, mapM_eq_ok_iff,
        ofMember_eq_ok_iff, and_comm]
  | integer number | float number | string bytes | array elements =>
      rw [ofValue]
      constructor
      · intro converted
        cases converted
      · rintro ⟨_, _, found, _⟩
        cases found

end

section

variable {members : Shape} {extracts : List Extract} {key : String}

/-- The first entry for a key is that of the first member with this key that is written. -/
theorem get?_writeMembers_keyed {other : String} {target : Target} {extract : Extract} :
    Record.get? (writeMembers (.keyed other target :: members) (extract :: extracts)) key =
      if key = other then
        (target.write? extract).or (Record.get? (writeMembers members extracts) key)
      else
        Record.get? (writeMembers members extracts) key := by
  rw [writeMembers]
  by_cases same : key = other
  · subst same
    cases target.write? extract <;> simp [Record.get?]
  · cases target.write? extract <;>
      simp [Record.get?, List.lookup_cons, beq_false_of_ne same, same]

theorem get?_writeMembers_of_notMem (notKey : key ∉ members.keys) :
    Record.get? (writeMembers members extracts) key = none := by
  induction members generalizing extracts with
  | nil => simp [writeMembers, Record.get?]
  | cons member members induction =>
      cases extracts with
      | nil => cases member <;> simp [writeMembers, Record.get?]
      | cons extract extracts =>
          cases member with
          | skipped fixed =>
              rw [writeMembers]
              exact induction notKey
          | keyed other target =>
              obtain ⟨different, notBehind⟩ := not_or.mp (mt List.mem_cons.mpr notKey)
              rw [get?_writeMembers_keyed, if_neg different]
              exact induction notBehind

/-- A member is written under its key, if there is anything to write. -/
theorem get?_writeMembers (distinct : members.keys.Nodup) {target : Target} {extract : Extract}
    (isPair : (.keyed key target, extract) ∈ members.zip extracts) :
    Record.get? (writeMembers members extracts) key = target.write? extract := by
  induction members generalizing extracts with
  | nil => simp at isPair
  | cons member members induction =>
      cases extracts with
      | nil => simp at isPair
      | cons other extracts =>
          rw [List.zip_cons_cons, List.mem_cons] at isPair
          cases member with
          | skipped fixed =>
              rw [writeMembers]
              exact induction distinct (isPair.resolve_left nofun)
          | keyed otherKey otherTarget =>
              obtain ⟨isNew, distinct⟩ := List.nodup_cons.mp distinct
              rw [get?_writeMembers_keyed]
              rcases isPair with isFirst | isPair
              · cases isFirst
                rw [if_pos rfl, get?_writeMembers_of_notMem isNew, Option.or_none]
              · have different : key ≠ otherKey := by
                  rintro rfl
                  exact isNew (key_mem_keys (List.of_mem_zip isPair).1)
                rw [if_neg different]
                exact induction distinct isPair

end

/-- Where all extracts of a list are written, so is the list. -/
theorem exists_written_of_forall₂ {element : Target} {elements : List Value}
    {extracts : List Extract}
    (each : ∀ {value extract}, element.ofValue value = .ok extract →
      ∃ written, element.write? extract = some written ∧ element.ofValue written = .ok extract)
    (converted : List.Forall₂ (fun value extract => element.ofValue value = .ok extract)
      elements extracts) :
    ∃ written, extracts.mapM (write? element) = some written ∧
      List.Forall₂ (fun value extract => element.ofValue value = .ok extract) written extracts := by
  induction converted with
  | nil => exact ⟨[], rfl, .nil⟩
  | cons made _ induction =>
      obtain ⟨first, isWritten, again⟩ := each made
      obtain ⟨others, areWritten, othersAgain⟩ := induction
      exact ⟨first :: others, by simp [List.mapM_cons, isWritten, areWritten],
        .cons again othersAgain⟩

/-- What is written of an extract that has been made yields that extract again. -/
theorem IsExact.exists_written {target : Target} (isExact : target.IsExact) {value : Value}
    {extract : Extract} (converted : target.ofValue value = .ok extract) :
    ∃ written, target.write? extract = some written ∧ target.ofValue written = .ok extract := by
  induction isExact generalizing value extract with
  | integer type =>
      obtain ⟨number, rfl, inRange, rfl⟩ := ofValue_integer_eq_ok_iff.mp converted
      exact ⟨.integer number, by rw [write?, Int64.ofInt_toInt], converted⟩
  | text =>
      obtain ⟨bytes, content, rfl, decoded, rfl⟩ := ofValue_text_eq_ok_iff.mp converted
      refine ⟨_, rfl, ofValue_text_eq_ok_iff.mpr ⟨_, content, rfl, ?_, rfl⟩⟩
      exact Text.Utf8.decode?_encode content
  | anyValue =>
      rw [ofValue] at converted
      cases converted
      exact ⟨value, rfl, rfl⟩
  | anyRecord =>
      rw [ofValue, exceptMap_eq_ok_iff] at converted
      obtain ⟨record, _, rfl⟩ := converted
      exact ⟨.record record, rfl, rfl⟩
  | list isExact induction =>
      obtain ⟨elements, extracts, _, rfl, made⟩ := ofValue_list_eq_ok_iff.mp converted
      obtain ⟨written, areWritten, again⟩ := exists_written_of_forall₂ induction made
      refine ⟨.array written, by rw [write?, areWritten]; rfl, ?_⟩
      exact ofValue_list_eq_ok_iff.mpr ⟨written, extracts, rfl, rfl, again⟩
  | option isExact induction =>
      rw [ofValue, exceptMap_eq_ok_iff] at converted
      obtain ⟨content, made, rfl⟩ := converted
      obtain ⟨written, isWritten, again⟩ := induction made
      refine ⟨written, isWritten, ?_⟩
      rw [ofValue, again]
      rfl
  | @shape members distinct each induction =>
      obtain ⟨record, extracts, rfl, rfl, makes⟩ := ofValue_shape_eq_ok_iff.mp converted
      refine ⟨_, rfl, ofValue_shape_eq_ok_iff.mpr
        ⟨writeMembers members extracts, extracts, rfl, rfl, ?_⟩⟩
      obtain ⟨length_eq, pairs⟩ := List.forall₂_iff_zip.mp makes
      refine List.forall₂_iff_zip.mpr ⟨length_eq, fun {member extract} isPair => ?_⟩
      rcases pairs isPair with ⟨found, made⟩ | ⟨missing⟩ | _
      · obtain ⟨written, isWritten, again⟩ := induction _ _ (List.of_mem_zip isPair).1 made
        exact .present ((get?_writeMembers distinct isPair).trans isWritten) again
      · exact .absent ((get?_writeMembers distinct isPair).trans rfl)
      · exact .skipped extract

end Target

namespace Catalogue

/-- The targets that integers, texts, lists, what may be absent, values and records are made of
together with the shapes of the catalogue that have no floating point numbers. -/
inductive Offers : Target → Prop
  | integer (type : IntegerTarget) : Offers (.integer type)
  | text : Offers .text
  | anyValue : Offers .anyValue
  | anyRecord : Offers .anyRecord
  | list {element : Target} (offers : Offers element) : Offers (.list element)
  | option {content : Target} (offers : Offers content) : Offers (.option content)
  | one : Offers (.shape one)
  | two : Offers (.shape two)
  | three : Offers (.shape three)
  | strings : Offers (.shape strings)
  | pair {target : Target} (offers : Offers target) : Offers (.shape (pair target))
  | nothing : Offers (.shape nothing)

/-- A shape whose members with a key are exact, each with a key of its own. -/
theorem isExact_of_forall {members : Shape} (distinct : members.keys.Nodup)
    (each : members.Forall fun member =>
      ∀ key target, member = .keyed key target → target.IsExact) :
    (Target.shape members).IsExact :=
  .shape distinct fun key target isMember =>
    List.forall_iff_forall_mem.mp each _ isMember key target rfl

theorem isExact_one : (Target.shape one).IsExact :=
  isExact_of_forall (by decide) (by simp [one, Target.IsExact.integer])

theorem isExact_two : (Target.shape two).IsExact :=
  isExact_of_forall (by decide) (by simp [two, Target.IsExact.integer])

theorem Offers.isExact {target : Target} (offers : Offers target) : target.IsExact := by
  induction offers with
  | integer type => exact .integer type
  | text => exact .text
  | anyValue => exact .anyValue
  | anyRecord => exact .anyRecord
  | list offers isExact => exact .list isExact
  | option offers isExact => exact .option isExact
  | one => exact isExact_one
  | two => exact isExact_two
  | three =>
      refine isExact_of_forall (by decide) ?_
      simp [Catalogue.three, isExact_one, isExact_two, Target.IsExact.integer,
        Target.IsExact.option]
  | strings =>
      refine isExact_of_forall (by decide) ?_
      simp [Catalogue.strings, Target.IsExact.integer, Target.IsExact.text, Target.IsExact.list]
  | pair offers isExact =>
      exact isExact_of_forall (by simp [Catalogue.pair, Shape.keys, Member.key?])
        (by simp [Catalogue.pair, isExact])
  | nothing => exact .shape (by decide) nofun

end Catalogue

namespace Target

/-- Extraction is faithful.  What is written of an extract yields it again, for all targets of
the catalogue without floating point numbers.  An integer is converted if and only if it is in
range, and keeps its number.  A list is converted if and only if all its elements are, one by one
and in order, or it fails like the first element that does not, and a string goes through as the
list of its bytes. -/
theorem extraction_is_faithful :
    (∀ target, Catalogue.Offers target → ∀ value extract, target.ofValue value = .ok extract →
      ∃ written, target.write? extract = some written ∧ target.ofValue written = .ok extract) ∧
    (∀ type value extract, (integer type).ofValue value = .ok extract ↔
      ∃ number : Int64, value = .integer number ∧ type.InRange number.toInt ∧
        extract = .integer number.toInt) ∧
    ∀ element : Target,
      (∀ elements,
        (∀ extract, (list element).ofValue (.array elements) = .ok extract ↔
          ∃ extracts, extract = .list extracts ∧
            List.Forall₂ (fun value extract => element.ofValue value = .ok extract)
              elements extracts) ∧
        ((∃ extract, (list element).ofValue (.array elements) = .ok extract) ↔
          ∀ value ∈ elements, ∃ extract, element.ofValue value = .ok extract) ∧
        ∀ failure, (list element).ofValue (.array elements) = .error failure ↔
          ∃ before value after, elements = before ++ value :: after ∧
            (∀ earlier ∈ before, ∃ extract, element.ofValue earlier = .ok extract) ∧
              element.ofValue value = .error failure) ∧
      ∀ bytes : List UInt8, (list element).ofValue (.string bytes) =
        (list element).ofValue
          (.array (bytes.map fun byte => .integer (Int64.ofNat byte.toNat))) := by
  refine ⟨fun target offers value extract => offers.isExact.exists_written,
    fun type value extract => ofValue_integer_eq_ok_iff, fun element => ⟨fun elements => ?_,
    ofValue_list_string element⟩⟩
  rw [ofValue_list_array]
  refine ⟨fun extract => ?_, ?_, fun failure => ?_⟩
  · simp only [exceptMap_eq_ok_iff, mapM_eq_ok_iff, and_comm]
  · rw [← exists_mapM_eq_ok_iff]
    simp only [exceptMap_eq_ok_iff]
    exact ⟨fun ⟨_, extracts, made, _⟩ => ⟨extracts, made⟩,
      fun ⟨extracts, made⟩ => ⟨_, extracts, made, rfl⟩⟩
  · rw [exceptMap_eq_error_iff, mapM_eq_error_iff]

/-- A record with its entries in another order, one that is not looked up and none for what may
be absent is written in the order of the shape, without both. -/
theorem extraction_is_faithful_three :
    let loose : Value := .record [("yyy", .record [("ddd", .integer (-5)), ("ccc", .integer 3)]),
      ("zzz", .string [255]), ("xxx", .record [("aaa", .integer 1), ("bbb", .integer 2)])]
    let extract : Extract := .members [.members [.integer 1, .integer 2],
      .members [.integer 3, .integer (-5)], .text "", .absent]
    let written : Value := .record [("xxx", .record [("aaa", .integer 1), ("bbb", .integer 2)]),
      ("yyy", .record [("ccc", .integer 3), ("ddd", .integer (-5))])]
    Catalogue.Offers (shape Catalogue.three) ∧
      (shape Catalogue.three).ofValue loose = .ok extract ∧
      (shape Catalogue.three).write? extract = some written ∧
      (shape Catalogue.three).ofValue written = .ok extract := by
  intro loose extract written
  have made : (shape Catalogue.three).ofValue loose = .ok extract := rfl
  have isWritten : (shape Catalogue.three).write? extract = some written := rfl
  obtain ⟨other, otherWritten, again⟩ := extraction_is_faithful.1 _ .three loose extract made
  rw [isWritten] at otherWritten
  cases otherWritten
  exact ⟨.three, made, isWritten, again⟩

end Target

end BinaryRecords
